import IdIssuer.Proofs.Session.Moves

/-!
# How an allocator gets at the buffer of a tag

`Opened` lists the ways in which looking for the buffer of a tag may end, each with the condition
for it and with all that is left behind. `opened` says that it ends in one of them. So does whatever
is asked of an allocator, since an allocator does nothing else but ask the buffer that it gets at.
-/

namespace IdIssuer

open Pool

namespace Allocator

inductive Opened (a : Allocator) (tag : String) (p : Pool) :
    Outcome (BufferId × Buffer) × Allocator × Pool → Prop where
  | locked (hp : a.poisoned = true) : Opened a tag p (.failed .lockPoisoned, a, p)
  | found {id b} (hp : a.poisoned = false) (hf : a.find? tag p = some (id, b)) :
    Opened a tag p (.done (id, b), a, p)
  | created {g log} (hp : a.poisoned = false) (hf : a.find? tag p = none)
    (ha : (p.store.fetch tag).1 = .segment g) (hv : g.isValid = true) :
    Opened a tag p
      (.done (⟨tag, (p.buffersOf tag).length⟩, .new tag a.config a.spawner g),
        { a with buffers := a.buffers.insert tag ⟨tag, (p.buffersOf tag).length⟩ },
        ⟨(p.store.fetch tag).2,
          p.buffers.insert tag (p.buffersOf tag ++ [.new tag a.config a.spawner g]), p.pending,
          log⟩)
  | invalid {g} (hp : a.poisoned = false) (hf : a.find? tag p = none)
    (ha : (p.store.fetch tag).1 = .segment g) (hv : g.isValid = false) :
    Opened a tag p (.failed (.invalidSegment tag g.base g.max), a,
      { p with store := (p.store.fetch tag).2 })
  | refused {error} (hp : a.poisoned = false) (hf : a.find? tag p = none)
    (ha : (p.store.fetch tag).1 = .failed error) :
    Opened a tag p (.failed (.initialization tag error), a,
      { p with store := (p.store.fetch tag).2 })
  | unwound {call} (hp : a.poisoned = false) (hf : a.find? tag p = none)
    (ha : (p.store.fetch tag).1 = .panicked call) :
    Opened a tag p (.panicked call, { a with poisoned := true },
      { p with store := (p.store.fetch tag).2 })

variable {a : Allocator} {tag t : String} {p : Pool} {id : BufferId} {b : Buffer}
  {made : Outcome (BufferId × Buffer) × Allocator × Pool}

theorem opened (a : Allocator) (tag : String) (p : Pool) : a.Opened tag p (a.buffer tag p) := by
  unfold buffer
  split_ifs with hlocked
  · exact .locked hlocked
  have hp : a.poisoned = false := by simpa using hlocked
  cases hf : a.find? tag p with
  | some found => exact .found hp hf
  | none =>
    obtain ⟨answer, σ, hfetch⟩ : ∃ answer σ, p.store.fetch tag = (answer, σ) := ⟨_, _, rfl⟩
    have ha : (p.store.fetch tag).1 = answer := congrArg Prod.fst hfetch
    have hσ : σ = (p.store.fetch tag).2 := congrArg Prod.snd hfetch.symm
    simp only [create, Buffer.create, hfetch]
    cases answer with
    | segment g =>
      cases hv : g.isValid with
      | true =>
        simp only [hv, if_true, hσ]
        exact .created hp hf ha hv
      | false =>
        simp only [hv, Bool.false_eq_true, if_false, hσ]
        exact .invalid hp hf ha hv
    | failed error =>
      rw [hσ]
      exact .refused hp hf ha
    | panicked call =>
      rw [hσ]
      exact .unwound hp hf ha

/-- A buffer that the allocator knows afterwards it has known before, or the buffer is new. -/
theorem Opened.known (h : a.Opened tag p made) (hget : made.2.1.buffers.get? t = some id) :
    a.buffers.get? t = some id ∨ p.buffer? id = none ∧ (made.2.2.buffer? id).isSome := by
  cases h with
  | locked | found | invalid | refused | unwound => exact .inl hget
  | created =>
    rw [Table.get?_insert] at hget
    split_ifs at hget
    · cases hget
      exact .inr ⟨by simp [buffer?], by rw [buffer?_created]; rfl⟩
    · exact .inl hget

/-- What the allocator knows of other tags stays as it is. -/
theorem Opened.get?_of_ne (h : a.Opened tag p made) (ht : tag ≠ t) :
    made.2.1.buffers.get? t = a.buffers.get? t := by
  cases h with
  | created => rw [Table.get?_insert, if_neg ht]
  | locked | found | invalid | refused | unwound => rfl

/-- The buffer that an allocator gets at is the one that it knows for the tag. -/
theorem Opened.get?_buffers (h : a.Opened tag p made) (hdone : made.1 = .done (id, b)) :
    made.2.1.buffers.get? tag = some id := by
  cases h with
  | found _ hf =>
    cases hdone
    exact (find?_eq_some hf).1
  | created =>
    cases hdone
    simp
  | locked | invalid | refused | unwound => cases hdone

end Allocator

end IdIssuer
