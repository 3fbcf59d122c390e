import FlowTracker.Decimal
import FlowTracker.Inspect

/-!
# Dynamic values

Settings arrive as values whose type is only known when they are read: from a file, from the
environment, from a document.  A number is an integer or a 64-bit fraction; which integers there are
is up to the format.
-/

namespace FlowTracker

inductive Value where
  | null
  | bool (value : Bool)
  | integer (value : Int)
  /-- A fraction, by the bits that encode it. -/
  | real (bits : UInt64)
  | text (value : String)
  /-- A single character in single quotes. -/
  | character (value : Char)
  | list (items : List Value)
  | map (entries : List (String × Value))
  deriving Repr, Inhabited, BEq

namespace Value

/-- Whether an integer fits 64 bits, signed or unsigned. -/
def fitsWord (n : Int) : Bool := -0x8000000000000000 ≤ n && n < 0x10000000000000000

/-- The 64-bit fraction nearest to `digits * 10 ^ exponent`. -/
def ofScientific (negative : Bool) (digits : Nat) (exponent : Int) : Value :=
  let magnitude := OfScientific.ofScientific digits (exponent < 0) exponent.natAbs
  .real ((magnitude : Float).toBits ||| if negative then 0x8000000000000000 else 0)

mutual

/-- The path to an integer inside of a value that does not fit a word.  Of several ones it is the first,
where lists are gone through in order, and maps in the order of their keys. -/
def widePath? : Value → Option (List String)
  | .integer n => if fitsWord n then none else some []
  | .list items => wideItem? 0 items
  | .map entries => wideEntry? entries
  | _ => none

/-- The first path into the items of a list, whose positions begin with the given one. -/
def wideItem? (position : Nat) : List Value → Option (List String)
  | [] => none
  | item :: rest =>
    match widePath? item with
    | some path => some (toString position :: path)
    | none => wideItem? (position + 1) rest

/-- The first path into the entries of a map, by the order of their keys. -/
def wideEntry? : List (String × Value) → Option (List String)
  | [] => none
  | (key, value) :: rest =>
    match widePath? value, wideEntry? rest with
    | some path, some other => some (if other < key :: path then other else key :: path)
    | some path, none => some (key :: path)
    | none, other => other

end

def describe : Value → String
  | .null => "null"
  | .bool true => "boolean `true`"
  | .bool false => "boolean `false`"
  | .integer n => "integer `" ++ toString n ++ "`"
  | .real bits => "floating point `" ++ (Decimal.ofBits bits).text ++ "`"
  | .text s => "string " ++ (Inspect.quoted s).inline
  | .character c => "character " ++ String.ofList ['\x60', c, '\x60']
  | .list _ => "sequence"
  | .map _ => "map"

def mismatch (value : Value) (expected : String) : String :=
  "invalid type: " ++ value.describe ++ ", expected " ++ expected

/-- Puts an entry into a map; it takes the place of an earlier entry of its key. -/
def putEntry (entries : List (String × Value)) (key : String) (value : Value) :
    List (String × Value) :=
  if entries.any (·.1 == key) then
    entries.map fun entry => if entry.1 == key then (key, value) else entry
  else entries ++ [(key, value)]

def nest : (path : List String) → Value → Value
  | [], value => value
  | key :: path, value => .map [(key, nest path value)]

end Value

end FlowTracker
