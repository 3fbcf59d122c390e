/-!
# Text

Rules on text that several formats share: which characters are blank, how blanks at the ends are taken
off, where lines end and how they are indented, and which numbers digits spell.
-/

namespace FlowTracker.Text

/-- The characters that count as blank: those of the property White_Space. -/
def isBlank (c : Char) : Bool :=
  let n := c.toNat
  (9 ≤ n && n ≤ 13) || n == 32 || n == 0x85 || n == 0xa0 || n == 0x1680
    || (0x2000 ≤ n && n ≤ 0x200a) || n == 0x2028 || n == 0x2029 || n == 0x202f
    || n == 0x205f || n == 0x3000

def trim (cs : List Char) : List Char :=
  ((cs.dropWhile isBlank).reverse.dropWhile isBlank).reverse

/-- The pieces between the occurrences of a separator. -/
def splitOn (separator : Char) : List Char → List (List Char)
  | [] => [[]]
  | c :: rest =>
    if c = separator then [] :: splitOn separator rest
    else
      match splitOn separator rest with
      | [] => [[c]]
      | piece :: pieces => (c :: piece) :: pieces

/-- A text whose lines are indented, apart from the first one. -/
def indented (width : Nat) (text : String) : String :=
  String.intercalate (String.ofList ('\n' :: List.replicate width ' '))
    ((splitOn '\n' text.toList).map String.ofList)

/-- A line without the carriage return that belongs to its end. -/
def dropReturn (line : List Char) : List Char :=
  if line.getLast? = some '\r' then line.dropLast else line

/-- The lines of a text.  A line ends with a line feed, or a carriage return and a line feed; what is
behind the last end is a line if there is something, and keeps its carriage return. -/
def lines (text : String) : List String :=
  let pieces := splitOn '\n' text.toList
  let closed := pieces.dropLast.map fun line => String.ofList (dropReturn line)
  match pieces.getLast? with
  | none | some [] => closed
  | some last => closed ++ [String.ofList last]

/-! ### Digits -/

def digitValue (c : Char) : Nat := c.toNat - '0'.toNat

/-- The value of a digit, below 36; a letter has the same value in either case. -/
def digit? (c : Char) : Option Nat :=
  if c.isDigit then some (digitValue c)
  else if 'a' ≤ c && c ≤ 'z' then some (c.toNat - 'a'.toNat + 10)
  else if 'A' ≤ c && c ≤ 'Z' then some (c.toNat - 'A'.toNat + 10)
  else none

def digitOf? (base : Nat) (c : Char) : Option Nat := (digit? c).filter (· < base)

/-- The number that digits spell in a base; there is at least one of them. -/
def number? (base : Nat) (cs : List Char) : Option Nat :=
  if cs.isEmpty then none
  else cs.foldlM (fun n c => (digitOf? base c).map (n * base + ·)) 0

end FlowTracker.Text
