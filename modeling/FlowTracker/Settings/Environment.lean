import FlowTracker.Fault
import FlowTracker.Numeral
import FlowTracker.Settings.Layer

/-!
# Settings from the environment

A variable whose name begins with the prefix sets the field that the rest of its name tells; two
underscores lead into a group of fields.  The case of names does not matter.

The value is a truth value, a number, a quoted text, a quoted character, an array or a table.  What
does not read as one of them to its last character is a text as it stands.  A quoted text may be cut
inside of a character, which is a fault and ends the reading of all variables.
-/

namespace FlowTracker.Environment

abbrev Variables := List (String × String)

def Variables.get? (environment : Variables) (name : String) : Option String := environment.lookup name

/-! ### Names -/

/-- What the names of the settings' variables begin with. -/
def marker : List Char := "EDDY_".toList

/-- A text without a marker at its start, in whatever case. -/
def dropMarker? : (marker text : List Char) → Option (List Char)
  | [], text => some text
  | _ :: _, [] => none
  | m :: marker, c :: text => if c.toUpper = m then dropMarker? marker text else none

/-- The text with a dot in the place of every two underscores, from left to right. -/
def dotted : List Char → List Char
  | '_' :: '_' :: rest => '.' :: dotted rest
  | c :: rest => c :: dotted rest
  | [] => []

/-- The path of the field that a variable sets; every part of it has a name. -/
def path? (name : String) : Option (List String) := do
  let rest ← dropMarker? marker (Text.trim name.toList)
  let parts := Text.splitOn '.' (Text.trim (dotted rest))
  if parts.any List.isEmpty then none
  else some (parts.map fun part => String.ofList (part.map Char.toLower))

/-! ### Values -/

def isSpace (c : Char) : Bool :=
  c == ' ' || c == '\t' || c == '\n' || c == '\r' || c == '\x0c'

def isSeparator (c : Char) : Bool :=
  c == ',' || c == '[' || c == ']' || c == '\x7b' || c == '\x7d'

def isKeyChar (c : Char) : Bool := c.isAlphanum || c == '_' || c == '-'

def skipSpaces (cs : List Char) : List Char := cs.dropWhile isSpace

def dropWord? : (word text : List Char) → Option (List Char)
  | [], text => some text
  | _ :: _, [] => none
  | w :: word, c :: text => if c = w then dropWord? word text else none

/-- The integer that a bare value spells, if it fits a word. -/
def integer? (cs : List Char) : Option Int := do
  let fitting (n : Int) : Option Int := if Value.fitsWord n then some n else none
  match cs with
  | '+' :: digits => fitting (Int.ofNat (← Text.number? 10 digits))
  | '-' :: digits => fitting (-(Int.ofNat (← Text.number? 10 digits)))
  | digits => fitting (Int.ofNat (← Text.number? 10 digits))

/-- A bare value: a fraction if it has a point, else an integer, else a text. -/
def bare (cs : List Char) : Value :=
  let cs := Text.trim cs
  let number :=
    if cs.contains '.' then (Numeral.decimal? cs).map Numeral.toReal
    else (integer? cs).map Value.integer
  number.getD (.text (String.ofList cs))

inductive Misread where
  | malformed
  | fault (cause : Fault)
  deriving DecidableEq, Repr, Inhabited

/-! ### Quoted texts -/

/-- The characters up to the closing quote, which has no backslash before it, and what follows it. -/
def quotedBody? : (escaped : Bool) → List Char → Option (List Char × List Char)
  | _, [] => none
  | false, '"' :: rest => some ([], rest)
  | escaped, c :: rest =>
    (quotedBody? (!escaped && c == '\\') rest).map fun found => (c :: found.1, found.2)

def isQuotable (c : Char) : Bool := c == '\t' || (' ' ≤ c && c ≠ '\x7f')

def escape? : Char → Option Char
  | '"' => some '"'
  | '\\' => some '\\'
  | 'b' => some '\x08'
  | 'f' => some '\x0c'
  | 'n' => some '\n'
  | 'r' => some '\r'
  | 't' => some '\t'
  | _ => none

def escapeLength? : Char → Option Nat
  | 'u' => some 4
  | 'U' => some 8
  | _ => none

inductive QuotePhase where
  | text
  | escape
  /-- Before `left` digits of a character code. -/
  | code (left value : Nat)
  deriving DecidableEq, Repr, Inhabited

def unescape? : QuotePhase → List Char → Option (List Char)
  | .text, [] => some []
  | _, [] => none
  | .text, c :: rest =>
    if c = '\\' then unescape? .escape rest
    else if isQuotable c then (unescape? .text rest).map (c :: ·)
    else none
  | .escape, c :: rest =>
    match escape? c, escapeLength? c with
    | some meant, _ => (unescape? .text rest).map (meant :: ·)
    | none, some length => unescape? (.code length 0) rest
    | none, none => none
  | .code left value, c :: rest =>
    match Text.digitOf? 16 c with
    | none => none
    | some digit =>
      let value := value * 16 + digit
      if 1 < left then unescape? (.code (left - 1) value) rest
      else if value.isValidChar then (unescape? .text rest).map (Char.ofNat value :: ·)
      else none

/-- The characters within the first `limit` octets of a text that starts at `offset`. -/
def within (limit : Nat) : (offset : Nat) → List Char → Except Fault (List Char)
  | _, [] => .ok []
  | offset, c :: rest =>
    if limit ≤ offset then .ok []
    else if limit < offset + c.utf8Size then .error (.splitCharacter limit c offset)
    else (within limit (offset + c.utf8Size) rest).map (c :: ·)

/-- The text that the characters between quotes stand for.  What comes before the first backslash is
measured in characters and cut behind that number of octets. -/
def quotedText (cs : List Char) : Except Misread String :=
  let start := cs.takeWhile (· ≠ '\\')
  let rest := cs.dropWhile (· ≠ '\\')
  if !start.all isQuotable then .error .malformed
  else if rest.isEmpty then .ok (String.ofList start)
  else
    match within start.length 0 start with
    | .error cause => .error (.fault cause)
    | .ok start =>
      match unescape? .text rest with
      | some rest => .ok (String.ofList (start ++ rest))
      | none => .error .malformed

def quoted (cs : List Char) : Except Misread (String × List Char) :=
  match quotedBody? false cs with
  | none => .error .malformed
  | some (body, rest) => (quotedText body).map fun text => (text, rest)

/-! ### Arrays and tables -/

def key : List Char → Except Misread (String × List Char)
  | '"' :: rest => quoted rest
  | cs =>
    let name := cs.takeWhile isKeyChar
    if name.isEmpty then .error .malformed
    else .ok (String.ofList name, cs.dropWhile isKeyChar)

mutual

def readValue : (fuel : Nat) → List Char → Except Misread (Value × List Char)
  | 0, _ => .error .malformed
  | fuel + 1, cs => do
    let cs := skipSpaces cs
    let (value, rest) ←
      match dropWord? "true".toList cs, dropWord? "false".toList cs with
      | some rest, _ => pure (Value.bool true, rest)
      | none, some rest => pure (Value.bool false, rest)
      | none, none =>
        match cs with
        | '\x7b' :: rest => do
          let (entries, rest) ← readEntries fuel [] rest
          pure (Value.map entries, rest)
        | '[' :: rest => do
          let (items, rest) ← readItems fuel rest
          pure (Value.list items, rest)
        | '"' :: rest => do
          let (text, rest) ← quoted rest
          pure (Value.text text, rest)
        | '\'' :: c :: '\'' :: rest => pure (Value.character c, rest)
        | '\'' :: _ => throw .malformed
        | cs => pure (bare (cs.takeWhile fun c => !isSeparator c),
            cs.dropWhile fun c => !isSeparator c)
    return (value, skipSpaces rest)

/-- Reads the items of an array behind its bracket, and its end.  A comma may stand behind the last
item. -/
def readItems : (fuel : Nat) → List Char → Except Misread (List Value × List Char)
  | 0, _ => .error .malformed
  | _ + 1, ']' :: rest => .ok ([], rest)
  | fuel + 1, cs => do
    let (value, rest) ← readValue fuel cs
    match rest with
    | ',' :: rest => do
      let (items, rest) ← readItems fuel rest
      return (value :: items, rest)
    | ']' :: rest => return ([value], rest)
    | _ => throw .malformed

/-- Reads the entries of a table behind its brace, and its end, behind those that were read before. -/
def readEntries : (fuel : Nat) → Layer → List Char → Except Misread (Layer × List Char)
  | 0, _, _ => .error .malformed
  | _ + 1, before, '\x7d' :: rest => .ok (before, rest)
  | fuel + 1, before, cs => do
    let (key, rest) ← key (skipSpaces cs)
    match skipSpaces rest with
    | '=' :: rest => do
      let (value, rest) ← readValue fuel rest
      let entries := Value.putEntry before key value
      match rest with
      | ',' :: rest => readEntries fuel entries rest
      | '\x7d' :: rest => return (entries, rest)
      | _ => throw .malformed
    | _ => throw .malformed

end

def value (text : String) : Except Fault Value :=
  match readValue (2 * text.length + 2) text.toList with
  | .ok (value, []) => .ok value
  | .error (.fault cause) => .error cause
  | _ => .ok (.text text)

/-! ### The layer -/

def extend (before : Layer) : (String × String) → Except Fault Layer
  | (name, text) => do
    let some (first :: path) := path? name | return before
    let value ← value text
    return before.overlay [(first, .nest path value)]

/-- The settings of the environment: those of its variables, in their order. -/
def layer (environment : Variables) : Except Fault Layer := environment.foldlM extend []

end FlowTracker.Environment
