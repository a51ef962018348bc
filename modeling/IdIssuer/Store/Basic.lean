import IdIssuer.Store.Script

/-!
# The store that buffers reserve from

A store is a ledger whose calls are numbered from one and may be scripted. A scripted call leaves
the ledger as it is. The store remembers every call with its answer, so that the number of calls
is the length of its history.
-/

namespace IdIssuer

/-- A call made to a store. -/
structure Call where
  tag : String
  answer : Answer
deriving Repr, DecidableEq

/-- A ledger under a script, and the calls made so far, latest first. -/
structure Store where
  ledger : Ledger
  script : Script
  history : List Call

namespace Store

/-- A store over a ledger that nobody has called yet. -/
def new (ledger : Ledger) (script : Script) : Store := ⟨ledger, script, []⟩

/-- The number of calls made so far. -/
def calls (s : Store) : Nat := s.history.length

/-- The ledger's answer to a call, and the ledger after it. -/
def consult (l : Ledger) (tag : String) : Answer × Ledger :=
  match l.fetch tag with
  | (.ok segment, l) => (.segment segment, l)
  | (.error error, l) => (.failed error, l)

/-- Asks for the next segment of a tag. -/
def fetch (s : Store) (tag : String) : Answer × Store :=
  match s.script (s.calls + 1) with
  | some act =>
    let answer := act.answer (s.calls + 1)
    (answer, { s with history := ⟨tag, answer⟩ :: s.history })
  | none =>
    let (answer, ledger) := consult s.ledger tag
    (answer, { s with ledger, history := ⟨tag, answer⟩ :: s.history })

/-- Answers a request to the ledger, past the script and the count of calls. -/
def answer (s : Store) (request : Ledger.Request) : Except StoreError Ledger.Response × Store :=
  let (result, ledger) := s.ledger.answer request
  (result, { s with ledger })

theorem history_fetch (s : Store) (tag : String) :
    (s.fetch tag).2.history = ⟨tag, (s.fetch tag).1⟩ :: s.history := by
  unfold fetch
  split <;> rfl

theorem script_fetch (s : Store) (tag : String) : (s.fetch tag).2.script = s.script := by
  unfold fetch
  split <;> rfl

end Store

end IdIssuer
