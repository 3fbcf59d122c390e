import FlowTracker.Octets

/-!
# YAML tokens

The characters of a YAML text fall into tokens: the marks of the document structure, the starts and
ends of collections, the indicators of keys, values and entries, the properties of nodes, and
scalars.  Where indentation opens or closes a block collection there is a token for it, so that what
follows need not look at columns any more.
-/

namespace FlowTracker.Yaml

/-! ### Characters -/

/-- A blank inside of a line. -/
def isBlank (c : Char) : Bool := c == ' ' || c == '\t'

/-- A line break, in a text whose ordinary line breaks are normalised. -/
def isBreak (c : Char) : Bool := c == '\n' || c == '\u2028' || c == '\u2029'

/-- Whether a blank, a line break or the end of the text comes next. -/
def blankNext : List Char → Bool
  | [] => true
  | c :: _ => isBlank c || isBreak c

def isNameChar (c : Char) : Bool := c.isAlphanum || c == '_' || c == '-'

/-- The mark of the byte order, which may stand at the start of a line. -/
def byteOrderMark : Char := '\ufeff'

def isPrintable (c : Char) : Bool :=
  let n := c.toNat
  n == 0x09 || n == 0x0a || n == 0x0d || (0x20 ≤ n && n ≤ 0x7e) || n == 0x85
    || (0xa0 ≤ n && n ≤ 0xfffd) || 0x10000 ≤ n

/-- The text with every ordinary line break written in the same way. -/
def normalizeBreaks : List Char → List Char
  | '\r' :: '\n' :: rest => '\n' :: normalizeBreaks rest
  | '\r' :: rest => '\n' :: normalizeBreaks rest
  | '\u0085' :: rest => '\n' :: normalizeBreaks rest
  | c :: rest => c :: normalizeBreaks rest
  | [] => []

/-- Whether a line that starts a document comes next. -/
def startsWithDashes : List Char → Bool
  | '-' :: '-' :: '-' :: rest => blankNext rest
  | _ => false

/-- Whether a line that ends a document comes next. -/
def startsWithDots : List Char → Bool
  | '.' :: '.' :: '.' :: rest => blankNext rest
  | _ => false

def startsWithMarker (cs : List Char) : Bool := startsWithDashes cs || startsWithDots cs

/-! ### Places -/

structure Mark where
  line : Nat
  column : Nat
  /-- The number of octets before it. -/
  index : Nat
  deriving DecidableEq, Repr, Inhabited

def Mark.after (mark : Mark) (c : Char) : Mark :=
  if isBreak c then ⟨mark.line + 1, 0, mark.index + c.utf8Size⟩
  else ⟨mark.line, mark.column + 1, mark.index + c.utf8Size⟩

/-- What is left of a text, and where it starts. -/
structure Cursor where
  rest : List Char
  mark : Mark
  deriving Repr, Inhabited

/-! ### Tokens -/

inductive Token where
  | documentStart
  | documentEnd
  /-- A directive that names the version of the language. -/
  | version (major minor : Nat)
  /-- A directive that says what a tag handle stands for. -/
  | tagHandle (handle : String) (uri : Octets)
  | blockSequenceStart
  | blockMappingStart
  | blockEnd
  | flowSequenceStart
  | flowSequenceEnd
  | flowMappingStart
  | flowMappingEnd
  /-- The dash before an entry of a block sequence. -/
  | blockEntry
  | flowEntry
  /-- The start of a key, written or inferred. -/
  | key
  /-- The colon before a value. -/
  | value
  | alias (name : String)
  | anchor (name : String)
  | tag (handle : String) (suffix : Octets)
  | scalar (text : String) (plain : Bool)
  deriving DecidableEq, Repr, Inhabited

end FlowTracker.Yaml
