import FlowTracker.CommandLine.Parse
import FlowTracker.Files
import FlowTracker.Settings.Extract
import FlowTracker.Yaml.Parser

/-!
# Loading settings

The settings of a run come from three layers above the defaults: the file that the command line names,
the environment, and the command line itself.  The file has to be a regular one with the extension of
a YAML file.
-/

namespace FlowTracker.Settings

/-! ### The file -/

/-- The extension of the last part of a path: what is behind its last dot, unless the dot is its
first character. -/
def extension? (path : String) : Option String :=
  let parts := (Text.splitOn '/' path.toList).filter (!·.isEmpty)
  let name := parts.getLastD []
  let ending := (name.reverse.takeWhile (· ≠ '.')).reverse
  if ending.length + 1 < name.length then some (String.ofList ending) else none

/-- The contents of the file that was found under a path, if it can be a settings file. -/
def fileContents (path : String) : FileStatus → Except SettingsError Octets
  | .unavailable _ => .error (.noFile path)
  | .directory | .special _ => .error (.noRegularFile path)
  | .regular contents =>
    let extension := (extension? path).getD "none"
    if extension ≠ "yaml" ∧ extension ≠ "yml" ∨ (extension? path).isNone then
      .error (.wrongExtension extension)
    else .ok contents

def fileLayer (contents : Octets) : Except SettingsError Layer :=
  match String.fromUTF8? ⟨contents.toArray⟩ with
  | none => .error (.unreadable [] "stream did not contain valid UTF-8")
  | some text => SettingsError.here (Yaml.read text)

/-! ### All layers -/

/-- The settings of the layers above the defaults, if all of them are in range.  A fault in the
environment goes before everything that is wrong with the contents of the file. -/
def ofLayers (contents : Option Octets) (environment : Environment.Variables)
    (commandLine : CommandLine) : Except SettingsError Settings := do
  let fromEnvironment ← (Environment.layer environment).mapError .fault
  let file : Layer ← match contents with
    | none => pure []
    | some contents => fileLayer contents
  let settings ← ofLayer ((file.overlay fromEnvironment).overlay commandLine.layer)
  settings.validate
  return settings

/-- Loads the settings; `look` tells what is found under a path. -/
def load {m : Type → Type} [Monad m] (look : String → m FileStatus)
    (environment : Environment.Variables) (commandLine : CommandLine) :
    m (Except SettingsError Settings) := do
  match commandLine.config with
  | none => return ofLayers none environment commandLine
  | some path =>
    let status ← look path
    return do ofLayers (some (← fileContents path status)) environment commandLine

end FlowTracker.Settings
