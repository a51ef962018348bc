import IdIssuer.Proofs.Buffer.Counter
import IdIssuer.Proofs.Pool.Flight
import IdIssuer.Proofs.Pool.Sound

/-!
# Orderly deeds

A deed is orderly towards a tag if ids of the tag are reserved through buffers only, and those are
asked for ids and for prefetches that are due, or end the prefetches that they have started. As long
as the queue has every buffer as often as its flag says, what is done to a buffer in an orderly deed
is orderly in turn (`isOrderly_operation`), and nothing is ever staged by hand.
-/

namespace IdIssuer

namespace Pool

/-- Ids of the tag are reserved through buffers only, whose slots nobody handles. -/
def Deed.IsOrderly (tag : String) (d : Deed) : Prop :=
  match d.move with
  | .request r => r ≠ .fetch tag
  | .fetch t => t ≠ tag
  | .operate id op => id.tag = tag → op = .next ∨ op = .check
  | .create .. | .finish | .drop | .tell _ => True

variable {p : Pool} {move : Move} {tag : String}

theorem isOrderly_operation {id : BufferId} {op : Operation} {b : Buffer}
    {pending : List BufferId} (orderly : (⟨p, move⟩ : Deed).IsOrderly id.tag)
    (waiting : p.IsWaiting) (hb : p.buffer? id = some b)
    (hq : pending = p.pending ∧ move = .operate id op ∨
      p.pending = id :: pending ∧ (op = .finish ∨ op = .drop)) : op.IsOrderly b := by
  rcases hq with ⟨-, rfl⟩ | ⟨hp, rfl | rfl⟩
  · rcases orderly rfl with rfl | rfl <;> trivial
  · exact waiting.loading hb hp
  · trivial

/-- Nothing is staged by hand. -/
theorem put?_of_orderly {d : Deed} (orderly : d.IsOrderly tag) {id : BufferId}
    (ht : id.tag = tag) (g : Segment) : d.put? ≠ some (id, g) := by
  obtain ⟨p, move⟩ := d
  subst ht
  intro hput
  cases move with
  | operate id' op =>
    cases op with
    | put g' mark =>
      obtain ⟨b, -, hb⟩ := Option.bind_eq_some_iff.1 hput
      split_ifs at hb
      cases hb
      rcases orderly rfl with he | he <;> cases he
    | next | check | prefetch | finish | drop | mark => cases hput
  | request _ | fetch _ | create _ _ _ | finish | drop | tell _ => cases hput

theorem isFair_of_orderly {deeds : List Deed} (orderly : ∀ d ∈ deeds, d.IsOrderly tag)
    {id : BufferId} (ht : id.tag = tag) : IsFair id deeds :=
  fun d hd g hput => absurd hput (put?_of_orderly (orderly d hd) ht g)

end Pool

end IdIssuer
