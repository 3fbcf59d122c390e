import FlowTracker.Program

/-!
# The executable

The part of the program that touches the world: it asks for files and variables, and writes what a run
has to say.
-/

namespace FlowTracker

def FileStatus.ofError : IO.Error → FileStatus
  | .noFileOrDirectory .. => .unavailable .notFound
  | .permissionDenied .. => .unavailable (.other "Permission denied (os error 13)")
  | .inappropriateType none .. => .directory
  | .inappropriateType (some _) .. => .unavailable .notDirectory
  | error => .unavailable (.other (toString error))

def lookFile (path : String) : IO FileStatus := do
  if path.isEmpty then return .unavailable .notFound
  if path.contains '\x00' then return .unavailable .strayNul
  try
    return .regular (← IO.FS.readBinFile path).toList
  catch error => return .ofError error

def readVariables : IO Environment.Variables := do
  try
    let block ← IO.FS.readBinFile "/proc/self/environ"
    let entries := ((String.fromUTF8? block).getD "").toList
    return (Text.splitOn '\x00' entries).filterMap fun entry =>
      match entry.dropWhile (· ≠ '=') with
      | [] => none
      | _ :: value => some (String.ofList (entry.takeWhile (· ≠ '=')), String.ofList value)
  catch _ => return []

def Event.line (event : Event) : String :=
  event.level.text ++ " " ++ event.name ++ ": " ++ event.message
    ++ String.join (event.fields.map fun field => " " ++ field.1 ++ "=" ++ field.2)

end FlowTracker

open FlowTracker in
def main (arguments : List String) : IO UInt32 := do
  let outcome ← Program.run lookFile arguments (← readVariables)
  for event in outcome.log do
    IO.eprintln event.line
  IO.print outcome.output
  IO.eprint outcome.errors
  return UInt32.ofNat outcome.exitCode
