import FlowTracker.Capture.Open
import FlowTracker.Settings.Load

/-!
# The program

A run reads the command line, loads the settings, opens the capture, replays it and prints the flows
that were released.  What it needs to know about files it asks through a function, so that a run is a
value like any other: what it writes, and the code it exits with.
-/

namespace FlowTracker

/-! ### Errors -/

inductive RunError where
  | settings (error : SettingsError)
  | noInput
  | replay (error : ReplayError)
  deriving DecidableEq, Repr, Inhabited

namespace RunError

def message : RunError → String
  | .settings error => error.message
  | .noInput => "no input capture given, set --input or 'input' in the config file"
  | .replay error => error.message

def captureCauses (error : CaptureError) : List String :=
  error.message :: match error with
    | .open _ cause | .io cause => [cause]
    | .truncated _ | .badRecordLength .. => []

def causes : RunError → List String
  | .settings (.unreadable key problem) => [SettingsError.problemText key problem]
  | .settings _ => []
  | .noInput => []
  | .replay (.source error) => captureCauses error
  | .replay (.threadPanic _) => []

/-- The lines for causes; several ones are numbered.  Further lines of a cause are indented as far as
the first one. -/
def causeLines (causes : List String) : String :=
  match causes with
  | [cause] => "    " ++ Text.indented 4 cause ++ "\n"
  | causes =>
    String.join (causes.zipIdx.map fun cause =>
      "    " ++ toString cause.2 ++ ": " ++ Text.indented 7 cause.1 ++ "\n")

def report (error : RunError) : String :=
  "Error: " ++ error.message ++ "\n"
    ++ if error.causes.isEmpty then ""
      else "\nCaused by:\n" ++ causeLines error.causes

end RunError

/-! ### Runs -/

structure Outcome where
  exitCode : Nat
  output : String
  /-- What is reported about an error. -/
  errors : String
  /-- The events of the log, as far as the settings let them through. -/
  log : List Event
  deriving Repr, Inhabited

namespace Outcome

def ofText (text : String) : Outcome := ⟨0, text, "", []⟩

def failed (exitCode : Nat) (report : String) : Outcome := ⟨exitCode, "", report, []⟩

def faulted (fault : Fault) : Outcome := failed 101 ("fault: " ++ fault.message ++ "\n")

end Outcome

namespace Program

/-- How much a level lets through: the levels are numbered from the rarest to the most frequent. -/
def verbosity : Level → Nat
  | .error => 1
  | .warn => 2
  | .info => 3
  | .debug => 4
  | .trace => 5

/-- The events that a level lets through. -/
def visible (level : Level) (events : Array Event) : List Event :=
  events.toList.filter fun event => verbosity event.level ≤ verbosity level

def sourceLog : Source → Array Event
  | .capture reading => reading.log
  | .list _ => #[]

/-- The outcome of a replay under the given settings.  The released flows are printed even if the
replay fails. -/
def conclude (settings : Settings) (replay : Replay) : Outcome :=
  let output := String.join (replay.engine.exported.toList.map settings.format.emit)
  let log := visible settings.logLevel (sourceLog replay.source ++ replay.engine.log)
  match replay.outcome with
  | .ok _ => ⟨0, output, "", log⟩
  | .error error => ⟨1, output, (RunError.replay error).report, log⟩

def replayFile (settings : Settings) (path : String) (status : FileStatus) : Outcome :=
  match Capture.openFile path status with
  | .error error => .failed 1 (RunError.replay (.source error)).report
  | .ok capture =>
    match Replay.run settings.plan (.capture capture) with
    | .error fault => .faulted fault
    | .ok replay => conclude settings replay

def runWith {m : Type → Type} [Monad m] (look : String → m FileStatus) (settings : Settings) :
    m Outcome := do
  match settings.input with
  | none => return .failed 1 RunError.noInput.report
  | some path => return replayFile settings path (← look path)

/-- Runs the program with the arguments behind its name and the variables of its environment; `look`
tells what is found under a path. -/
def run {m : Type → Type} [Monad m] (look : String → m FileStatus) (arguments : List String)
    (environment : Environment.Variables) : m Outcome := do
  match CommandLine.parse arguments environment with
  | .error .help => return .ofText (CommandLine.helpText environment)
  | .error .version => return .ofText CommandLine.versionText
  | .error stop => return .failed 2 stop.report
  | .ok commandLine =>
    match ← Settings.load look environment commandLine with
    | .error (.fault fault) => return .faulted fault
    | .error error => return .failed 1 (RunError.settings error).report
    | .ok settings => runWith look settings

end Program

end FlowTracker
