import IdIssuer.Text.Blank
import IdIssuer.Trial.Arguments

/-!
# Plans

A plan holds arguments that make sense together: there is something to do, the tags are distinct
and not blank, and the number of all ids fits a word. `Plan.ofArguments` refuses other arguments for
the first reason in a fixed order.
-/

namespace IdIssuer

namespace Trial

/-- Why arguments make no plan. -/
inductive PlanError where
  | noWorkers
  | noIds
  | noStep
  | noTags
  | repeatedTag (tag : String)
  /-- The number of all ids does not fit a word. -/
  | tooManyIds
  | config (error : ConfigError)

/-- The text of an error. -/
def PlanError.message : PlanError → String
  | noWorkers => "SEGID_WORKERS must be greater than 0"
  | noIds => "SEGID_IDS_PER_WORKER must be greater than 0"
  | noStep => "SEGID_STEP must be greater than 0"
  | noTags => "SEGID_TAGS must name at least one tag"
  | repeatedTag tag => s!"SEGID_TAGS lists `{tag}` more than once"
  | tooManyIds => "Overflow in total id computation"
  | config error => error.message

/-- The first text of a list that stands among those seen before it. -/
def firstRepeat? (seen : List String) : List String → Option String
  | [] => none
  | s :: rest => if s ∈ seen then some s else firstRepeat? (s :: seen) rest

/-- The texts of a list without the blanks around them, those that are blank left out. -/
def trimAll (texts : List String) : List String := (texts.map trim).filter (· ≠ "")

/-- What a trial is to do. -/
structure Plan where
  workers : UInt64
  idsPerWorker : UInt64
  tags : List String
  step : UInt64
  config : Config
  latency : UInt64
  jitter : UInt64

namespace Plan

/-- The number of ids that all workers ask for. -/
def totalIds (p : Plan) : UInt64 := p.workers * p.idsPerWorker

/-- The plan that arguments make. -/
def ofArguments (a : Arguments) : Except PlanError Plan :=
  let tags := trimAll a.tags
  if a.workers = 0 then .error .noWorkers
  else if a.idsPerWorker = 0 then .error .noIds
  else if a.step = 0 then .error .noStep
  else if tags = [] then .error .noTags
  else
    match firstRepeat? [] tags with
    | some tag => .error (.repeatedTag tag)
    | none =>
      if UInt64.size ≤ a.workers.toNat * a.idsPerWorker.toNat then .error .tooManyIds
      else
        match Config.default.withRatio a.ratio with
        | .error error => .error (.config error)
        | .ok config =>
          .ok { workers := a.workers, idsPerWorker := a.idsPerWorker, tags, step := a.step, config,
                latency := a.latency, jitter := a.jitter }

end Plan

end Trial

end IdIssuer
