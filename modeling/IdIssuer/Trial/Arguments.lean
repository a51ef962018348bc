import IdIssuer.Config
import IdIssuer.Text.Numeral

/-!
# Arguments of a trial

A trial is set up by seven settings. Each may be given on the command line, where it is named by a
flag, or in the environment, where it is named by a variable, and has a value of its own accord
otherwise. `Given` holds what has been given so far; `Given.supply` takes the text of one more
value.
-/

namespace IdIssuer

namespace Trial

/-- What may be set. -/
inductive Setting where
  | workers
  | idsPerWorker
  | tags
  | step
  | ratio
  | latency
  | jitter
deriving Repr, DecidableEq

namespace Setting

/-- All settings. -/
def all : List Setting := [workers, idsPerWorker, tags, step, ratio, latency, jitter]

/-- The flag that names a setting on the command line, without its dashes. -/
def flag : Setting → String
  | workers => "workers"
  | idsPerWorker => "ids-per-worker"
  | tags => "tags"
  | step => "step"
  | ratio => "low-water-ratio"
  | latency => "store-latency-ms"
  | jitter => "store-jitter-ms"

/-- The variable that names a setting in the environment. -/
def variableName : Setting → String
  | workers => "SEGID_WORKERS"
  | idsPerWorker => "SEGID_IDS_PER_WORKER"
  | tags => "SEGID_TAGS"
  | step => "SEGID_STEP"
  | ratio => "SEGID_LOW_WATER_RATIO"
  | latency => "SEGID_STORE_LATENCY_MS"
  | jitter => "SEGID_STORE_JITTER_MS"

/-- The setting that a flag names. -/
def ofFlag? (flag : String) : Option Setting := all.find? fun s => s.flag = flag

end Setting

/-- Why arguments cannot be read, or need not be. -/
inductive UsageError where
  /-- A word that no setting explains. -/
  | unknownWord (word : String)
  /-- A flag without its value. -/
  | missingValue (setting : Setting)
  /-- A value that is not of the setting's kind. -/
  | badValue (setting : Setting) (text : String)
  /-- A setting given a second time. -/
  | repeated (setting : Setting)
  /-- A value for a flag that takes none. -/
  | unneededValue (word : String)
  /-- The user asks how to use the program. -/
  | help
  /-- The user asks which version it is. -/
  | version
deriving Repr, DecidableEq

/-- The exit code of a program whose arguments are not read. -/
def UsageError.exitCode : UsageError → UInt32
  | help | version => 0
  | unknownWord _ | missingValue _ | badValue .. | repeated _ | unneededValue _ => 2

/-- The values given so far. -/
structure Given where
  workers : Option UInt64 := none
  idsPerWorker : Option UInt64 := none
  tags : Option (List String) := none
  step : Option UInt64 := none
  ratio : Option Float := none
  latency : Option UInt64 := none
  jitter : Option UInt64 := none

namespace Given

/-- A value has been given for a setting. -/
def has (g : Given) : Setting → Bool
  | .workers => g.workers.isSome
  | .idsPerWorker => g.idsPerWorker.isSome
  | .tags => g.tags.isSome
  | .step => g.step.isSome
  | .ratio => g.ratio.isSome
  | .latency => g.latency.isSome
  | .jitter => g.jitter.isSome

/-- Reads a value and notes it. Tags are separated by commas and add up. -/
def set (g : Given) (setting : Setting) (text : String) : Except UsageError Given :=
  let whole (note : UInt64 → Given) : Except UsageError Given :=
    match Numeral.whole? text with
    | some n => .ok (note n)
    | none => .error (.badValue setting text)
  match setting with
  | .workers => whole fun n => { g with workers := some n }
  | .idsPerWorker => whole fun n => { g with idsPerWorker := some n }
  | .step => whole fun n => { g with step := some n }
  | .latency => whole fun n => { g with latency := some n }
  | .jitter => whole fun n => { g with jitter := some n }
  | .tags => .ok { g with tags := some (g.tags.getD [] ++ text.splitOn ",") }
  | .ratio =>
    match Numeral.real? text with
    | some x => .ok { g with ratio := some x }
    | none => .error (.badValue setting text)

/-- Takes a value for a setting. Only tags may be given more than once. -/
def supply (g : Given) (setting : Setting) (text : String) : Except UsageError Given :=
  if setting ≠ .tags ∧ g.has setting then .error (.repeated setting) else g.set setting text

/-- Takes the values of the environment for the settings that have none. -/
def complete (g : Given) (environment : String → Option String) : Except UsageError Given :=
  Setting.all.foldlM (fun g setting =>
    if g.has setting then .ok g
    else
      match environment setting.variableName with
      | none => .ok g
      | some text => g.set setting text) g

end Given

/-- A value for every setting. -/
structure Arguments where
  /-- The number of workers that ask for ids at a time. -/
  workers : UInt64
  idsPerWorker : UInt64
  tags : List String
  /-- The number of ids that one reservation takes. -/
  step : UInt64
  ratio : Float
  /-- The time that a reservation takes, in milliseconds. -/
  latency : UInt64
  /-- The most that is added to that time by chance. -/
  jitter : UInt64

/-- The values given, and for other settings the standard ones; that of the number of workers is
the number of processors. -/
def Given.arguments (g : Given) (processors : UInt64) : Arguments :=
  { workers := g.workers.getD processors
    idsPerWorker := g.idsPerWorker.getD 500
    tags := g.tags.getD ["order-service"]
    step := g.step.getD 1000
    ratio := g.ratio.getD Config.default.ratio
    latency := g.latency.getD 5
    jitter := g.jitter.getD 0 }

end Trial

end IdIssuer
