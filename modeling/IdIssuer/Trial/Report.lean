import IdIssuer.Trial.Run
import Std.Data.TreeSet

/-!
# The report of a trial

`Trial.run` registers the tags of a plan, creates their buffers, lets the workers work along a
schedule, and looks at what they got: no id twice, and as many as were asked for. The report says
for each tag which ids were issued and where its buffer stands.
-/

namespace IdIssuer

namespace Trial

/-- Why a trial ends without a report. -/
inductive RunError where
  | plan (error : PlanError)
  /-- A tag could not be registered. -/
  | store (error : StoreError)
  /-- A tag has no buffer. -/
  | warmUp (error : BufferError)
  | worker (error : WorkerError)
  /-- An id was issued a second time. -/
  | repeatedId (id : UInt64)
  /-- Not all ids were issued. -/
  | miscounted (expected : UInt64) (total : Nat)
  /-- No ids, not even none, were collected for a tag. -/
  | lostTag (tag : String)
  /-- A call to the store panicked. -/
  | panicked

namespace RunError

/-- A buffer's error, and the store's error behind it. -/
def causes (error : BufferError) : List String :=
  error.message :: (error.source?.map StoreError.message).toList

/-- What went wrong, and below it the causes from the nearest to the farthest. -/
def chain : RunError → List String
  | plan error => [error.message]
  | store error => [error.message]
  | warmUp error => causes error
  | worker (.allocation number tag error) =>
    s!"worker {number} failed to allocate for `{tag}`" :: causes error
  | worker (.notIncreasing number tag id last) =>
    [s!"worker {number} got {id} after {last} for `{tag}`"]
  | worker .panicked | panicked => ["worker panicked"]
  | repeatedId id => [s!"id {id} was handed out twice"]
  | miscounted expected total => [s!"expected {expected} ids, collected {total}"]
  | lostTag tag => [s!"no ids were collected for `{tag}`"]

/-- A cause behind a margin, with the lines that follow its first one set in as far. -/
def setIn (margin : String) (cause : String) : String :=
  let indent := String.ofList (List.replicate margin.length ' ')
  margin ++ ("\n" ++ indent).intercalate (cause.splitOn "\n")

/-- The causes below an error: a single one is set in, several are numbered. -/
def causesText : List String → String
  | [] => ""
  | [cause] => "\n\nCaused by:\n" ++ setIn "    " cause
  | causes =>
    "\n\nCaused by:" ++ String.join (causes.zipIdx.map fun (cause, number) =>
      "\n" ++ setIn (s!"    {number}: ") cause)

/-- The text of an error with its causes. -/
def text (error : RunError) : String :=
  match error.chain with
  | [] => "Error: "
  | first :: causes => "Error: " ++ first ++ causesText causes

end RunError

/-- What became of one tag. -/
structure TagReport where
  tag : String
  /-- The number of ids issued. -/
  ids : Nat
  /-- The least id, or zero if there is none. -/
  first : UInt64
  /-- The greatest id, or zero if there is none. -/
  last : UInt64
  /-- Where the buffer stands. -/
  snapshot : Snapshot
deriving Repr, DecidableEq

/-- The segment being served, as the report writes it. -/
def TagReport.segment (r : TagReport) : String := s!"({r.snapshot.base}, {r.snapshot.max})"

/-- What became of a trial. -/
structure Report where
  ids : Nat
  /-- The number of reservations made after the buffers had been created. -/
  storeFetches : UInt64
  tags : List TagReport
deriving Repr, DecidableEq

/-! ## Before the work -/

/-- Registers tags with a step. -/
def registerAll (step : UInt64) : List String → Ledger → Except StoreError Ledger
  | [], l => .ok l
  | tag :: rest, l =>
    match l.register tag 0 step with
    | (.error error, _) => .error error
    | (.ok (), l) => registerAll step rest l

/-- Makes sure that tags have buffers. -/
def warmAll : List String → Allocator → Pool → Except RunError (Allocator × Pool)
  | [], a, p => .ok (a, p)
  | tag :: rest, a, p =>
    match a.warmUp tag p with
    | (.done (), a, p) => warmAll rest a p
    | (.failed error, _, _) => .error (.warmUp error)
    | (.panicked _, _, _) => .error .panicked

/-- A trial that is about to begin: tags registered, buffers created, workers waiting. -/
def start (plan : Plan) : Except RunError State :=
  match registerAll plan.step plan.tags .empty with
  | .error error => .error (.store error)
  | .ok ledger =>
    match warmAll plan.tags (.new plan.config .queueing) (.new (.new ledger .free)) with
    | .error error => .error error
    | .ok (allocator, pool) =>
      .ok ⟨plan, allocator, pool, List.replicate plan.workers.toNat .new⟩

/-! ## After the work -/

/-- The ids collected for a tag. -/
abbrev IdSet := Std.TreeSet UInt64 compare

/-- Adds ids to those collected, unless one of them has been. -/
def collectIds : List UInt64 → IdSet → Except RunError IdSet
  | [], seen => .ok seen
  | id :: rest, seen =>
    if seen.contains id then .error (.repeatedId id) else collectIds rest (seen.insert id)

/-- Adds the ids that a worker got for some tags. -/
def collectTags (w : Worker) : List String → Table IdSet → Except RunError (Table IdSet)
  | [], seen => .ok seen
  | tag :: rest, seen =>
    match collectIds (w.idsOf tag).reverse ((seen.get? tag).getD .empty) with
    | .error error => .error error
    | .ok ids => collectTags w rest (seen.insert tag ids)

/-- Adds the ids of workers, up to the first that stopped before it had all. -/
def collectWorkers (tags : List String) :
    List Worker → Table IdSet → Except RunError (Table IdSet)
  | [], seen => .ok seen
  | w :: rest, seen =>
    match w.error with
    | some error => .error (.worker error)
    | none =>
      match collectTags w tags seen with
      | .error error => .error error
      | .ok seen => collectWorkers tags rest seen

/-- What became of one tag, unless it has no buffer. -/
def State.tagReport (s : State) (seen : Table IdSet) (tag : String) :
    Except RunError (Option TagReport) :=
  match seen.get? tag with
  | none => .error (.lostTag tag)
  | some ids =>
    match s.allocator.snapshot tag s.pool with
    | .error error => .error (.warmUp error)
    | .ok none => .ok none
    | .ok (some snapshot) =>
      .ok (some { tag, ids := ids.size, first := ids.min?.getD 0, last := ids.max?.getD 0,
                  snapshot })

/-- What became of some tags. -/
def State.tagReports (s : State) (seen : Table IdSet) :
    List String → Except RunError (List TagReport)
  | [] => .ok []
  | tag :: rest =>
    match s.tagReport seen tag with
    | .error error => .error error
    | .ok report =>
      match s.tagReports seen rest with
      | .error error => .error error
      | .ok reports => .ok (report.toList ++ reports)

/-- Looks at what the workers of a trial got. -/
def State.report (s : State) (warmFetches : UInt64) : Except RunError Report :=
  match collectWorkers s.plan.tags s.workers .empty with
  | .error error => .error error
  | .ok seen =>
    let total := seen.values.foldl (fun n ids => n + ids.size) 0
    if total ≠ s.plan.totalIds.toNat then .error (.miscounted s.plan.totalIds total)
    else
      match s.tagReports seen s.plan.tags with
      | .error error => .error error
      | .ok tags =>
        .ok { ids := total, storeFetches := s.pool.store.ledger.fetches - warmFetches, tags }

/-- Runs a trial along a schedule, and to the end from where that leaves it. -/
def run (plan : Plan) (schedule : List Move) : Except RunError Report :=
  match start plan with
  | .error error => .error error
  | .ok s => (s.play schedule).finish.report s.pool.store.ledger.fetches

/-- Runs the trial that arguments ask for. -/
def runArguments (a : Arguments) (schedule : List Move) : Except RunError Report :=
  match Plan.ofArguments a with
  | .error error => .error (.plan error)
  | .ok plan => run plan schedule

end Trial

end IdIssuer
