import IdIssuer.Buffer.Basic
import IdIssuer.Datum

/-!
# Snapshots of a buffer

A snapshot shows where a buffer stands, with the cursor clamped to the end of its segment. In a
document it is a record with all seven fields, in any order and among others, or the list of their
values in order.
-/

namespace IdIssuer

/-- Where a buffer stands. -/
structure Snapshot where
  tag : String
  base : UInt64
  max : UInt64
  step : UInt64
  cursor : UInt64
  nextReady : Bool
  loading : Bool
deriving Repr, DecidableEq

namespace Snapshot

/-- The number of ids that the current segment has left. -/
def remaining (s : Snapshot) : UInt64 := if s.cursor ≤ s.max then s.max - s.cursor else 0

/-- The snapshot with the seven values of its fields, each of its own kind. -/
def ofFields? (tag base max step cursor nextReady loading : Datum) : Option Snapshot := do
  return {
    tag := ← tag.text?
    base := ← base.word?
    max := ← max.word?
    step := ← step.word?
    cursor := ← cursor.word?
    nextReady := ← nextReady.bool?
    loading := ← loading.bool? }

/-- Reads a snapshot from a document. -/
def ofDatum? : Datum → Option Snapshot
  | .list [tag, base, max, step, cursor, nextReady, loading] =>
    ofFields? tag base max step cursor nextReady loading
  | .record fields => do
    let get name := (Datum.record fields).field? name
    ofFields? (← get "tag") (← get "base") (← get "max") (← get "step") (← get "cursor")
      (← get "next_ready") (← get "loading")
  | _ => none

end Snapshot

namespace Buffer

/-- Where the buffer stands. -/
def snapshot (b : Buffer) : Snapshot :=
  { tag := b.tag, base := b.current.base, max := b.current.max, step := b.current.step,
    cursor := b.current.position, nextReady := b.ready, loading := b.loading }

theorem remaining_snapshot (b : Buffer) : b.snapshot.remaining = b.current.remaining := by
  simp only [Snapshot.remaining, snapshot, Segment.position, Segment.remaining]
  split <;> simp_all

end Buffer

end IdIssuer
