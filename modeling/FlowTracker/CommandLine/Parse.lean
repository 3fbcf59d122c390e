import FlowTracker.CommandLine.Switch
import FlowTracker.Settings.Environment
import FlowTracker.Text.Visible

/-!
# Reading the command line

A switch is written as a letter behind one dash or as a word behind two.  Its value follows behind an
equals sign, directly behind the letter, or as the next argument.  The value of a switch is only
looked at when the next switch or the end is reached, so an argument that nothing is known about goes
before a value that is not allowed.
-/

namespace FlowTracker

/-- What the command line and the variables in its place set. -/
structure CommandLine where
  config : Option String
  logLevel : Option Level
  input : Option String
  deriving DecidableEq, Repr, Inhabited

namespace CommandLine

/-- Why the command line does not start a run. -/
inductive Stop where
  | help
  | version
  /-- An argument that nothing is known about, the switch that may have been meant, and the switches
  that were given. -/
  | unknownArgument (text : String) (meant : Option Switch) (given : List Switch)
  | missingValue (switch : Switch)
  | unreadableLevel (text : String)
  | repeated (switch : Switch)
  /-- A value for a switch that takes none. -/
  | surplusValue (switch : Switch) (text : String) (given : List Switch)
  deriving DecidableEq, Repr, Inhabited

/-! ### Values -/

structure Reader where
  values : CommandLine
  /-- The switches that were given, in order. -/
  given : List Switch
  /-- The last switch, if it waits for its value or the value has not been looked at. -/
  pending : Option (Switch × Option String)
  deriving Repr, Inhabited

namespace Reader

def start : Reader := ⟨⟨none, none, none⟩, [], none⟩

def assign (reader : Reader) (switch : Switch) (text : String) : Except Stop Reader :=
  let nonEmpty (values : CommandLine) : Except Stop Reader :=
    if text.isEmpty then .error (.missingValue switch) else .ok { reader with values }
  match switch with
  | .config => nonEmpty { reader.values with config := some text }
  | .input => nonEmpty { reader.values with input := some text }
  | .logLevel =>
    match Level.ofText? text with
    | some level => .ok { reader with values := { reader.values with logLevel := some level } }
    | none => .error (.unreadableLevel text)
  | .help | .version => .ok reader

/-- Sets the value of a switch that was given, which may be given once. -/
def accept (reader : Reader) (switch : Switch) (text : String) : Except Stop Reader :=
  if reader.given.contains switch then .error (.repeated switch)
  else { reader with given := reader.given ++ [switch] }.assign switch text

def settle (reader : Reader) : Except Stop Reader :=
  match reader.pending with
  | none => .ok reader
  | some (switch, none) => .error (.missingValue switch)
  | some (switch, some text) => { reader with pending := none }.accept switch text

/-- The switches that were given, if an argument that nothing is known about comes next. -/
def givenSoFar (reader : Reader) : List Switch :=
  match reader.pending with
  | some (switch, some _) =>
    if reader.given.contains switch then reader.given.filter (· ≠ switch)
    else reader.given ++ [switch]
  | _ => reader.given

/-! ### Arguments -/

def switch (reader : Reader) (switch : Switch) (value : Option String) : Except Stop Reader := do
  let reader ← reader.settle
  match switch, value with
  | .help, _ => throw .help
  | .version, _ => throw .version
  | switch, some text => reader.accept switch text
  | switch, none => return { reader with pending := some (switch, none) }

def word (reader : Reader) (text : List Char) : Except Stop Reader :=
  let name := String.ofList (text.takeWhile (· ≠ '='))
  let value := match text.dropWhile (· ≠ '=') with
    | [] => none
    | _ :: value => some (String.ofList value)
  match Switch.ofWord? name with
  | none =>
    let meant := similar? name
    .error (.unknownArgument ("--" ++ name) meant
      (reader.givenSoFar ++ meant.toList.filter fun switch => !reader.givenSoFar.contains switch))
  | some switch =>
    match switch.operand?, value with
    | none, some text => .error (.surplusValue switch text reader.given)
    | _, value => reader.switch switch value

def letter (reader : Reader) (c : Char) (rest : List Char) : Except Stop Reader :=
  match Switch.ofLetter? c with
  | none => .error (.unknownArgument ("-" ++ String.singleton c) none [])
  | some switch =>
    reader.switch switch (match rest with
      | [] => none
      | '=' :: value => some (String.ofList value)
      | value => some (String.ofList value))

def operand (reader : Reader) (text : String) : Except Stop Reader :=
  match reader.pending with
  | some (switch, none) => .ok { reader with pending := some (switch, some text) }
  | _ => .error (.unknownArgument text none [])

/-- Reads arguments.  Behind two dashes that stand alone there are no switches any more. -/
def arguments (reader : Reader) : List String → Except Stop Reader
  | [] => .ok reader
  | argument :: rest => do
    match argument.toList with
    | ['-', '-'] =>
      match rest with
      | [] => return reader
      | text :: _ => throw (.unknownArgument text none [])
    | '-' :: '-' :: text => (← reader.word text).arguments rest
    | '-' :: c :: text => (← reader.letter c text).arguments rest
    | _ => (← reader.operand argument).arguments rest

/-- Sets the switches that were not given from the environment. -/
def fromVariables (reader : Reader) (environment : Environment.Variables) :
    List Switch → Except Stop Reader
  | [] => .ok reader
  | switch :: rest => do
    match reader.given.contains switch, switch.variableName?.bind environment.get? with
    | false, some text => (← reader.assign switch text).fromVariables environment rest
    | _, _ => reader.fromVariables environment rest

end Reader

def parse (arguments : List String) (environment : Environment.Variables) :
    Except Stop CommandLine := do
  let reader ← (← Reader.start.arguments arguments).settle
  return (← reader.fromVariables environment Switch.all).values

def layer (commandLine : CommandLine) : Layer :=
  (commandLine.logLevel.toList.map fun level => ("log_level", Value.text level.text))
    ++ commandLine.input.toList.map fun path => ("input", Value.text path)

/-! ### Texts -/

def programName : String := "eddy"

def versionText : String := programName ++ " 0.1.0\n"

def usageLine (given : List Switch) : String :=
  "Usage: " ++ programName ++
    if given.isEmpty then " [OPTIONS]" else String.join (given.map fun switch => " " ++ switch.usage)

/-- How the program is called with a switch that takes no value, beside switches that were given: of
those that take one, any may be given. -/
def exclusiveUsageLine (switch : Switch) (given : List Switch) : String :=
  let settable := Switch.all.filter (·.operand?.isSome)
  usageLine [switch] ++
    if given.isEmpty then ""
    else " <" ++ String.intercalate "|" (settable.map Switch.usage) ++ ">"

/-! ### The help text -/

def helpWidth : Nat :=
  (Switch.all.map fun switch => switch.usage.length).foldl max 0

/-- The column at which the help text says what a switch is for. -/
def summaryColumn : Nat := helpWidth + 8

def variableNote (environment : Environment.Variables) (switch : Switch) : String :=
  match switch.variableName? with
  | some name => " [env: " ++ name ++ "=" ++ (environment.get? name).getD "" ++ "]"
  | none => ""

def helpEntry (switch : Switch) : String :=
  "-" ++ String.singleton switch.letter ++ ", " ++ switch.usage
    ++ String.ofList (List.replicate (helpWidth - switch.usage.length + 2) ' ') ++ switch.summary

/-- The lines of the help text for switches, the first one behind its indentation.  A note may hold
control sequences; they go on to the next switch at most. -/
def helpLines (environment : Environment.Variables) : List Switch → String
  | [] => ""
  | switch :: rest =>
    let note := Text.indented summaryColumn (variableNote environment switch)
    helpEntry switch ++ Text.visible (note ++ if rest.isEmpty then "\n" else "\n  ")
      ++ helpLines environment rest

def helpText (environment : Environment.Variables) : String :=
  "Multi-threaded flow tracking engine built on eddy-queue\n\n" ++ usageLine [] ++ "\n\nOptions:\n  "
    ++ helpLines environment Switch.all

/-! ### Errors -/

/-- What is wrong with the command line, with advice; nothing if a text was asked for.  Of an argument
only what a terminal shows is repeated. -/
def Stop.message : Stop → String
  | .help | .version => ""
  | .unknownArgument text meant given =>
    "unexpected argument '" ++ Text.visible text ++ "' found"
      ++ (match meant with
        | some switch => "\n\n  tip: a similar argument exists: '--" ++ switch.word ++ "'"
        | none => "")
      ++ "\n\n" ++ usageLine given
  | .missingValue switch =>
    "a value is required for '" ++ switch.usage ++ "' but none was supplied"
  | .unreadableLevel text =>
    "invalid value '" ++ Text.visible text ++ "' for '" ++ Switch.logLevel.usage ++ "': "
      ++ Level.unreadable
  | .repeated switch =>
    "the argument '" ++ switch.usage ++ "' cannot be used multiple times\n\n" ++ usageLine []
  | .surplusValue switch text given =>
    "unexpected value '" ++ Text.visible text ++ "' for '" ++ switch.usage
      ++ "' found; no more were expected\n\n" ++ exclusiveUsageLine switch given

def Stop.report (stop : Stop) : String :=
  "error: " ++ stop.message ++ "\n\nFor more information, try '--help'.\n"

end CommandLine

end FlowTracker
