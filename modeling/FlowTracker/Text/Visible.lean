/-!
# What a terminal shows of a text

A text may hold control sequences: an escape character and what it introduces.  They move the cursor,
choose colours or set titles, and show nothing.  Neither do other control characters, apart from those
that stand for a blank or a new line.

A sequence that is not complete takes in what comes behind it.  A blank control character inside of a
sequence is shown, and so is what follows it up to the next control character; from there on the
sequence goes on.
-/

namespace FlowTracker.Text

/-- What the next character of a text belongs to. -/
inductive Sequence where
  | none
  /-- To a sequence of which only the escape character has been read. -/
  | escape
  /-- To an escape sequence with at least one intermediate character. -/
  | escapeIntermediate
  /-- To a control sequence, which ends with its first letter. -/
  | control
  /-- To the header of a device control string. -/
  | device
  /-- To the parameters of a device control string. -/
  | deviceParameters
  /-- To the header of a device control string, behind an intermediate character. -/
  | deviceIntermediate
  /-- To a string that a terminator ends. -/
  | string
  /-- To a command of the operating system, which a bell ends as well. -/
  | command
  deriving DecidableEq, Repr, Inhabited

def isWithin (low high : Nat) (c : Char) : Bool := low ≤ c.toNat && c.toNat ≤ high

/-- Whether the octets of a character hold the string terminator. -/
def holdsTerminator (c : Char) : Bool := (String.singleton c).toUTF8.toList.contains 0x9c

namespace Sequence

/-- The sequence that the characters behind `c` belong to. -/
def next (sequence : Sequence) (c : Char) : Sequence :=
  if c = '\x1b' then .escape
  else if c = '\x18' ∨ c = '\x1a' then .none
  else
    match sequence with
    | .none => .none
    | .escape =>
      if isWithin 0x20 0x2f c then .escapeIntermediate
      else if c = '[' then .control
      else if c = ']' then .command
      else if c = 'P' then .device
      else if c = 'X' ∨ c = '^' ∨ c = '_' then .string
      else if isWithin 0x30 0x7e c then .none
      else .escape
    | .escapeIntermediate => if isWithin 0x30 0x7e c then .none else .escapeIntermediate
    | .control => if isWithin 0x40 0x7e c then .none else .control
    | .device =>
      if isWithin 0x20 0x2f c then .deviceIntermediate
      else if isWithin 0x30 0x3f c then .deviceParameters
      else if isWithin 0x40 0x7e c then .string
      else .device
    | .deviceParameters =>
      if isWithin 0x20 0x2f c then .deviceIntermediate
      else if isWithin 0x3c 0x7e c then .string
      else .deviceParameters
    | .deviceIntermediate => if isWithin 0x30 0x7e c then .string else .deviceIntermediate
    | .string => if holdsTerminator c then .none else .string
    | .command => if c = '\x07' then .none else .command

def letsBlanksThrough : Sequence → Bool
  | .none | .escape | .escapeIntermediate | .control => true
  | _ => false

end Sequence

/-- A control character that stands for a blank or a new line. -/
def isBlankControl (c : Char) : Bool := c == '\t' || c == '\n' || c == '\x0c' || c == '\r'

def isGraphic (c : Char) : Bool := 0x20 ≤ c.toNat && c.toNat ≠ 0x7f

/-- What is shown of a text whose first character belongs to `sequence`; `isOpen` says whether what
came before it was shown. -/
def visibleFrom : (isOpen : Bool) → (sequence : Sequence) → List Char → List Char
  | _, _, [] => []
  | isOpen, sequence, c :: rest =>
    let shown :=
      (isBlankControl c && (isOpen || sequence.letsBlanksThrough))
        || (isGraphic c && (isOpen || sequence = .none))
    if shown then
      c :: visibleFrom true (if c.toNat < 0x80 then sequence else .none) rest
    else visibleFrom false (sequence.next c) rest

def visible (text : String) : String := String.ofList (visibleFrom false .none text.toList)

end FlowTracker.Text
