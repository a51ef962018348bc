import IdIssuer.Proofs.Buffer.Course

/-!
# Sound buffers

A buffer is sound if it serves a valid segment, has moved the cursor of that segment once for every
claim, and stages nothing but fresh segments. Every change keeps this up, also when the store
yields nonsense, as long as what is staged by hand is fresh (`Sound.changes`). Since a valid segment
ends below `2 ^ 63`, a sound buffer has room for many claims before the cursor wraps.
-/

namespace IdIssuer

open Note

/-- What is staged by hand, if anything is, is fresh. -/
def Note.IsFair : Note → Prop
  | put g _ => g.IsFresh
  | _ => True

/-- What is staged by hand, if anything is, is fresh. -/
def Operation.IsFair : Operation → Prop
  | put g _ => g.IsFresh
  | _ => True

theorem Note.isFair_of_admits {b : Buffer} {op : Operation} {note : Note}
    (h : b.poisoned = false → op.IsFair) (ha : op.Admits b note) : note.IsFair := by
  cases note with
  | put g m =>
    obtain ⟨rfl, hp⟩ := ha.put
    exact h hp
  | _ => trivial

namespace Buffer

/-- The buffer serves a valid segment from which `claims` claims have been made. -/
structure Sound (b : Buffer) (claims : ℕ) : Prop where
  valid : b.current.isValid = true
  cursor : b.current.cursor.toNat = b.current.base.toNat + claims
  staged : ∀ g, b.staged = some g → g.IsFresh

variable {b b' : Buffer} {σ σ' : Store} {c : ℕ}

theorem sound_new {tag : String} {config : Config} {spawner : Spawner} {g : Segment}
    (h : g.IsFresh) : (Buffer.new tag config spawner g).Sound 0 :=
  ⟨h.1, by rw [Buffer.new, h.2, Nat.add_zero], nofun⟩

theorem Sound.hasRoom (h : b.Sound c) (hc : c + 2 ≤ 2 ^ 63) : b.HasRoom := by
  refine ⟨?_, h.staged⟩
  have hv := Segment.isValid_iff.1 h.valid
  rw [h.cursor]
  omega

theorem isFresh_fetch {tag : String} {g : Segment} (ha : (σ.fetch tag).1 = .segment g)
    (hv : g.isValid = true) : g.IsFresh := ⟨hv, Store.cursor_fetch ha⟩

theorem Sound.install {g : Segment} (hg : g.IsFresh) :
    Sound { b with current := g, staged := none, ready := false } 0 :=
  ⟨hg.1, by rw [hg.2, Nat.add_zero], nofun⟩

theorem Sound.receive (h : b.Sound c) : (b.receive (σ.fetch b.tag).1).1.Sound c := by
  rcases b.receive_cases (σ.fetch b.tag).1 with ⟨he, -⟩ | ⟨g, ha, hv, -, -, he⟩
  · rw [he]
    exact h
  · rw [he]
    refine ⟨h.valid, h.cursor, fun g' hg' => ?_⟩
    cases hg'
    exact isFresh_fetch ha hv

theorem Sound.change {note : Note} (h : b.Sound c) (hc : Change b σ note b' σ')
    (hfair : note.IsFair) : b'.Sound (drift c [note]) := by
  cases hc with
  | claimed hlt =>
    refine ⟨h.valid, ?_, h.staged⟩
    rw [claim, Segment.cursor_advance, Segment.toNat_cursor_succ (Segment.succ_lt_of_lt hlt),
      h.cursor]
    rfl
  | missed hle hw =>
    refine ⟨h.valid, ?_, h.staged⟩
    rw [claim, Segment.cursor_advance, Segment.toNat_cursor_succ hw, h.cursor]
    rfl
  | promoted hx hr hs hg => exact .install (h.staged _ hs)
  | cleared hr hs => exact ⟨h.valid, h.cursor, by simp⟩
  | refilled hx hr ha hv => exact .install (isFresh_fetch ha hv)
  | refused ha => exact h
  | poisoned ha => exact ⟨h.valid, h.cursor, h.staged⟩
  | due hw => exact h.receive
  | direct => exact h.receive
  | started hw => exact ⟨h.valid, h.cursor, h.staged⟩
  | finished =>
    have := h.receive (σ := σ)
    exact ⟨this.valid, this.cursor, this.staged⟩
  | dropped => exact ⟨h.valid, h.cursor, h.staged⟩
  | put g mark hp =>
    refine ⟨h.valid, h.cursor, fun g' hg' => ?_⟩
    cases hg'
    exact hfair
  | marked => exact ⟨h.valid, h.cursor, h.staged⟩

theorem drift_cons (c : ℕ) (note : Note) (notes : List Note) :
    drift c (note :: notes) = drift (drift c [note]) notes := by
  cases note <;> rfl

theorem Sound.changes {notes : List Note} (h : b.Sound c) (hc : Changes b σ notes b' σ')
    (hfair : ∀ note ∈ notes, note.IsFair) : b'.Sound (drift c notes) := by
  induction hc generalizing c with
  | nil => exact h
  | cons hhead _ ih =>
    rw [drift_cons]
    exact ih (h.change hhead (hfair _ List.mem_cons_self))
      fun note hn => hfair note (List.mem_cons_of_mem _ hn)

/-- A buffer stays sound through an operation, which makes at most so many claims more. -/
theorem Sound.operate (h : b.Sound c) (hc : c + 2 ≤ 2 ^ 63) {op : Operation}
    (hfair : b.poisoned = false → op.IsFair) :
    ∃ c' ≤ c + op.claims, (b.operate σ op).buffer.Sound c' := by
  obtain ⟨notes, hcourse⟩ := course_operate (σ := σ) (h.hasRoom hc) op
  exact ⟨drift c notes, hcourse.drift c,
    h.changes hcourse.changes fun note hn =>
      Note.isFair_of_admits hfair (hcourse.admits note hn)⟩

end Buffer

end IdIssuer
