import IdIssuer.Proofs.Buffer.Course
import IdIssuer.Proofs.Store.Reserved
import Mathlib

/-!
# What a buffer holds

A buffer holds the ids that it may still hand out: those left in the segment it serves and those in
the slot. An operation hands out ids that the buffer held or that it reserves on the way, and no id
becomes held in any other way, unless it is staged by hand (`holds_operate`).
-/

namespace IdIssuer

open Note

/-- How often an id is left to claim from a segment that is staged by hand. -/
def Note.stake (n : UInt64) : Note → ℕ
  | put g _ => g.holds n
  | _ => 0

namespace Buffer

/-- How often an id is left to claim from the segments of a buffer. -/
def holds (b : Buffer) (n : UInt64) : ℕ :=
  b.current.holds n + b.staged.elim 0 (·.holds n)

variable {b b' : Buffer} {σ σ' : Store} {notes : List Note}

theorem holds_receive (b : Buffer) (answer : Answer) (n : UInt64) :
    (b.receive answer).1.holds n ≤ b.holds n + answer.holds n := by
  rcases b.receive_cases answer with ⟨he, -⟩ | ⟨g, rfl, -, -, hs, he⟩
  · rw [he]
    exact Nat.le_add_right _ _
  · rw [he]
    simp only [holds, hs, Option.elim_some, Option.elim_none, Answer.holds]
    omega

/-- A change takes what is claimed from what was held, reserved, or staged by hand. -/
theorem holds_change {note : Note} (h : Change b σ note b' σ') (free : σ.script.GivesNothing)
    (n : UInt64) :
    b'.holds n + note.claim?.toList.count n + σ.ledger.reserved b.tag n ≤
      b.holds n + note.stake n + σ'.ledger.reserved b.tag n := by
  have hfetch := Store.reserved_fetch free b.tag n
  have hreceive := b.holds_receive (σ.fetch b.tag).1 n
  cases h with
  | claimed hlt =>
    have := Segment.holds_advance_of_lt hlt n
    simp only [claim, holds, claim?, Option.toList_some, stake]
    omega
  | missed hle hw =>
    have := Segment.holds_advance_of_le hle hw n
    simp only [claim, holds, claim?, Option.toList_none, List.count_nil, stake]
    omega
  | promoted hx hr hs hg =>
    simp only [holds, hs, Option.elim_some, Option.elim_none, claim?, Option.toList_none,
      List.count_nil, stake]
    omega
  | cleared hr hs =>
    simp only [holds, Option.elim_none, claim?, Option.toList_none, List.count_nil, stake]
    omega
  | refilled hx hr ha hv =>
    rw [ha, Answer.holds] at hfetch
    simp only [holds, Option.elim_none, claim?, Option.toList_none, List.count_nil, stake]
    omega
  | refused ha =>
    simp only [claim?, Option.toList_none, List.count_nil, stake]
    omega
  | poisoned ha =>
    simp only [holds, claim?, Option.toList_none, List.count_nil, stake]
    omega
  | due hw =>
    simp only [claim?, Option.toList_none, List.count_nil, stake]
    omega
  | direct =>
    simp only [claim?, Option.toList_none, List.count_nil, stake]
    omega
  | started hw => exact Nat.le_refl _
  | finished =>
    have heq : { (b.receive (σ.fetch b.tag).1).1 with loading := false }.holds n =
        (b.receive (σ.fetch b.tag).1).1.holds n := rfl
    simp only [heq, claim?, Option.toList_none, List.count_nil, stake]
    omega
  | dropped => exact Nat.le_refl _
  | put g mark hp =>
    simp only [holds, Option.elim_some, claim?, Option.toList_none, List.count_nil, stake]
    omega
  | marked => exact Nat.le_refl _

theorem holds_changes (h : Changes b σ notes b' σ') (free : σ.script.GivesNothing) (n : UInt64) :
    b'.holds n + (notes.filterMap claim?).count n + σ.ledger.reserved b.tag n ≤
      b.holds n + (notes.map (stake n)).sum + σ'.ledger.reserved b.tag n := by
  induction h with
  | nil => exact Nat.le_refl _
  | @cons b σ note b₁ σ₁ notes b₂ σ₂ hc _ ih =>
    have hhead := holds_change hc free n
    have htail := ih ((calls_change hc).script ▸ free)
    rw [tag_change hc] at htail
    rw [filterMap_cons_eq, List.count_append, List.map_cons, List.sum_cons]
    omega

/-- How often an id is left to claim from a segment that an operation stages by hand. -/
def stake (b : Buffer) (n : UInt64) : Operation → ℕ
  | .put g _ => if b.poisoned then 0 else g.holds n
  | _ => 0

theorem sum_stake {op : Operation} (hop : ∀ g m, op ≠ .put g m)
    (h : ∀ note ∈ notes, op.Admits b note) (n : UInt64) : (notes.map (Note.stake n)).sum = 0 := by
  apply List.sum_eq_zero
  intro k hk
  obtain ⟨note, hnote, rfl⟩ := List.mem_map.1 hk
  cases note with
  | put g m => exact absurd (h _ hnote).put.1 (hop g m)
  | _ => rfl

theorem holds_operate (h : b.HasRoom) (free : σ.script.GivesNothing) (op : Operation) (n : UInt64) :
    (b.operate σ op).buffer.holds n + (b.operate σ op).outcome.issued.toList.count n +
        σ.ledger.reserved b.tag n ≤
      b.holds n + b.stake n op + (b.operate σ op).store.ledger.reserved b.tag n := by
  have regular (hop : ∀ g m, op ≠ .put g m) :
      (b.operate σ op).buffer.holds n + (b.operate σ op).outcome.issued.toList.count n +
          σ.ledger.reserved b.tag n ≤
        b.holds n + (b.operate σ op).store.ledger.reserved b.tag n := by
    obtain ⟨notes, hcourse⟩ := course_operate (σ := σ) h op
    have hchanges := holds_changes hcourse.changes free n
    have hissued := hcourse.issued.count_le n
    have hstake := sum_stake hop hcourse.admits n
    omega
  cases op with
  | put g m =>
    cases hp : b.poisoned with
    | true => simp [operate, putStaged?, hp, Outcome.issued, stake]
    | false =>
      simp only [operate, putStaged?, hp, Outcome.issued, stake, holds, Bool.false_eq_true,
        if_false, Option.getD_some, Option.elim_some, Option.toList_none, List.count_nil]
      omega
  | next | check | prefetch | finish | drop | mark => exact regular (by simp)

end Buffer

end IdIssuer
