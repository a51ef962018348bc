import IdIssuer.Trial.CommandLine
import IdIssuer.Trial.Report

/-!
# The command line

Reads the settings of a trial from the command line and the environment, runs it, and prints its
report. The exit code is 0 after a report, 1 after a trial that failed, and 2 if the settings
cannot be read.
-/

namespace IdIssuer

namespace Trial

namespace Setting

/-- What a setting is about, for the user. -/
def help : Setting → String
  | workers => "number of workers that ask for ids at a time"
  | idsPerWorker => "number of ids for each worker, spread over the tags in turn"
  | tags => "tags to issue ids for, separated by commas"
  | step => "number of ids that one reservation takes"
  | ratio => "fraction of the step at which the next segment is reserved"
  | latency => "time that a reservation takes, in milliseconds"
  | jitter => "most that is added to that time by chance, in milliseconds"

end Setting

/-- How to use the program. -/
def usage : String :=
  "\n".intercalate ("Settings, as a flag or in the environment:" :: Setting.all.map fun s =>
    s!"  --{s.flag} VALUE  ({s.variableName})  {s.help}")

/-- What is wrong with the command line. -/
def UsageError.message : UsageError → String
  | unknownWord word => s!"unexpected argument '{word}'"
  | missingValue setting => s!"a value is required for '--{setting.flag}'"
  | badValue setting text => s!"invalid value '{text}' for '--{setting.flag}'"
  | repeated setting => s!"'--{setting.flag}' cannot be used more than once"
  | unneededValue word => s!"unexpected value in '{word}'"
  | help => usage
  | version => "0.1.0"

/-- The lines of a report. -/
def Report.lines (r : Report) : List String :=
  s!"{r.ids} ids, all unique and increasing per worker; {r.storeFetches} reservations" ::
    r.tags.map fun t =>
      s!"{t.tag}: {t.ids} ids from {t.first} to {t.last}, segment {t.segment}, " ++
        s!"{t.snapshot.remaining} left, next ready: {t.snapshot.nextReady}"

end Trial

/-- The number of processors that the system lists, or one. -/
def processors : IO UInt64 := do
  try
    let lines ← IO.FS.lines "/proc/cpuinfo"
    return .ofNat (max 1 (lines.filter (·.startsWith "processor")).size)
  catch _ => return 1

/-- Waits as long as one reservation takes. -/
def roundTrip (latency jitter : UInt64) : IO Unit := do
  let extra ← IO.rand 0 jitter.toNat
  IO.sleep (.ofNat (latency.toNat + extra))

/-- Runs the trial that the command line asks for; the result is the exit code. -/
def runProgram (words : List String) : IO UInt32 := do
  let environment ← Trial.Setting.all.mapM fun s =>
    return (s.variableName, ← IO.getEnv s.variableName)
  let lookUp name := (environment.lookup name).join
  match Trial.Arguments.read words lookUp (← processors) with
  | .error error =>
    if error.exitCode = 0 then IO.println error.message
    else IO.eprintln s!"error: {error.message}"
    return error.exitCode
  | .ok arguments =>
    match Trial.runArguments arguments [] with
    | .error error =>
      IO.eprintln error.text
      return 1
    | .ok report =>
      for _ in [0 : report.tags.length + report.storeFetches.toNat] do
        roundTrip arguments.latency arguments.jitter
      report.lines.forM IO.println
      return 0

end IdIssuer

/-- The program. -/
def main (words : List String) : IO UInt32 := IdIssuer.runProgram words
