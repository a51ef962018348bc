import IdIssuer.Proofs.Buffer.Operation

/-!
# Operations as chains of changes

An operation of a buffer is a chain of small changes, each of which does one thing: it moves the
cursor, replaces the current segment, fills or empties the slot, or sets a flag. A `Change` carries
the condition under which the operation makes it, and a `Note` of what it amounts to, so that
whatever every change preserves is preserved by every operation.
-/

namespace IdIssuer

/-- What a change of a buffer amounts to. -/
inductive Note where
  | claimed (id : UInt64)
  /-- A claim found the current segment exhausted. -/
  | missed
  /-- A segment became the one being served. -/
  | installed (segment : Segment)
  | cleared
  /-- The store yielded no valid segment to a caller who waited. -/
  | refused
  | poisoned
  /-- A prefetch ran as soon as it was due. -/
  | due
  /-- A prefetch ran without being asked for. -/
  | direct
  | started
  | finished
  | dropped
  | put (segment : Segment) (mark : Bool)
  | marked

namespace Note

/-- The id that was claimed. -/
def claim? : Note → Option UInt64
  | claimed id => some id
  | _ => none

/-- The segment that became the one being served. -/
def install? : Note → Option Segment
  | installed g => some g
  | _ => none

/-- The change comes from asking for an id, or from seeing whether a prefetch is due. -/
def isRegular : Note → Bool
  | direct | finished | dropped | put .. | marked => false
  | _ => true

theorem filterMap_cons_eq {α β : Type} (f : α → Option β) (a : α) (rest : List α) :
    (a :: rest).filterMap f = (f a).toList ++ rest.filterMap f := by
  cases h : f a <;> simp [h]

/-- The number of claims made on the segment being served at the end, if there were `c` before. -/
def drift (c : ℕ) : List Note → ℕ
  | [] => c
  | claimed _ :: rest | missed :: rest => drift (c + 1) rest
  | installed _ :: rest => drift 0 rest
  | _ :: rest => drift c rest

end Note

/-- One change of a buffer, with the store that it may have called. -/
inductive Change : Buffer → Store → Note → Buffer → Store → Prop where
  | claimed {b σ} (h : b.current.cursor < b.current.max) :
    Change b σ (.claimed (b.current.cursor + 1)) b.claim.2 σ
  | missed {b σ} (h : b.current.max ≤ b.current.cursor)
    (hw : b.current.cursor.toNat + 1 < 2 ^ 64) : Change b σ .missed b.claim.2 σ
  | promoted {b σ g} (h : b.current.max ≤ b.current.cursor) (hr : b.ready = true)
    (hs : b.staged = some g) (hg : b.current.max ≤ g.base) :
    Change b σ (.installed g) { b with current := g, staged := none, ready := false } σ
  | cleared {b σ} (hr : b.ready = true) (hs : ∀ g, b.staged = some g → g.base < b.current.max) :
    Change b σ .cleared { b with staged := none, ready := false } σ
  | refilled {b σ g} (h : b.current.max ≤ b.current.cursor) (hr : b.ready = false)
    (ha : (σ.fetch b.tag).1 = .segment g) (hv : g.isValid = true) :
    Change b σ (.installed g) { b with current := g, staged := none, ready := false }
      (σ.fetch b.tag).2
  | refused {b σ} (ha : ∀ g, (σ.fetch b.tag).1 = .segment g → g.isValid = false) :
    Change b σ .refused b (σ.fetch b.tag).2
  | poisoned {b σ call} (ha : (σ.fetch b.tag).1 = .panicked call) :
    Change b σ .poisoned { b with poisoned := true } (σ.fetch b.tag).2
  | due {b σ} (hw : b.wantsPrefetch = true) :
    Change b σ .due (b.receive (σ.fetch b.tag).1).1 (σ.fetch b.tag).2
  | direct {b σ} : Change b σ .direct (b.receive (σ.fetch b.tag).1).1 (σ.fetch b.tag).2
  | started {b σ} (hw : b.wantsPrefetch = true) : Change b σ .started { b with loading := true } σ
  | finished {b σ} :
    Change b σ .finished { (b.receive (σ.fetch b.tag).1).1 with loading := false } (σ.fetch b.tag).2
  | dropped {b σ} : Change b σ .dropped { b with loading := false } σ
  | put {b σ} (g : Segment) (mark : Bool) (hp : b.poisoned = false) :
    Change b σ (.put g mark) { b with staged := some g, ready := b.ready || mark } σ
  | marked {b σ} : Change b σ .marked b.markReady σ

namespace Buffer

variable {b b' : Buffer} {σ σ' : Store} {note : Note}

theorem tag_change (h : Change b σ note b' σ') : b'.tag = b.tag := by
  cases h with
  | due _ | direct | finished => exact b.tag_receive _
  | _ => rfl

/-- A change calls the store once for the tag of the buffer, or not at all. -/
theorem calls_change (h : Change b σ note b' σ') : σ.Calls b.tag σ' := by
  cases h with
  | refilled | refused | poisoned | due | direct | finished => exact .inr rfl
  | _ => exact .inl rfl

end Buffer

/-- Changes in a row. -/
inductive Changes : Buffer → Store → List Note → Buffer → Store → Prop where
  | nil {b σ} : Changes b σ [] b σ
  | cons {b σ note b₁ σ₁ notes b₂ σ₂} (h : Change b σ note b₁ σ₁) (hs : Changes b₁ σ₁ notes b₂ σ₂) :
    Changes b σ (note :: notes) b₂ σ₂

namespace Changes

variable {b b₁ : Buffer} {σ σ₁ : Store}

theorem single {note : Note} (h : Change b σ note b₁ σ₁) : Changes b σ [note] b₁ σ₁ := .cons h .nil

end Changes

end IdIssuer
