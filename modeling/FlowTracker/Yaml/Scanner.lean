import FlowTracker.Yaml.Node
import FlowTracker.Yaml.Scalar

/-!
# The YAML scanner

The scanner turns a text into tokens.  It keeps the columns of the open block collections and, for
each flow collection and for the block around them, the place where a key may have begun: a key is
only known as one when its colon is found, and then the tokens for it are put in before it.  Such a
key lies within one line and is at most 1024 octets long.
-/

namespace FlowTracker.Yaml

/-- A place where a key may have begun. -/
structure SimpleKey where
  /-- Whether nothing but a key may stand there. -/
  required : Bool
  /-- The number of tokens before it. -/
  position : Nat
  mark : Mark
  deriving Repr, Inhabited

structure Scanner where
  cursor : Cursor
  tokens : Array Token
  /-- The columns of the open block collections, the innermost first. -/
  indents : List Nat
  /-- Whether a key may begin here. -/
  keyAllowed : Bool
  /-- The place where a key of the innermost collection may have begun. -/
  key : Option SimpleKey
  /-- The same for the collections around it; there is one for each open flow collection. -/
  outerKeys : List (Option SimpleKey)
  deriving Repr, Inhabited

abbrev ScanM := StateT Scanner (Except String)

namespace Scanner

def ofText (text : List Char) : Scanner := ⟨⟨text, ⟨0, 0, 0⟩⟩, #[], [], true, none, []⟩

def inFlow (scanner : Scanner) : Bool := !scanner.outerKeys.isEmpty

/-- The column left of which lines do not belong to the innermost block collection's entries. -/
def margin (scanner : Scanner) : Nat :=
  match scanner.indents with
  | [] => 0
  | column :: _ => column + 1

end Scanner

namespace ScanM

/-! ### Characters -/

def rest : ScanM (List Char) := return (← get).cursor.rest

def column : ScanM Nat := return (← get).cursor.mark.column

def moveTo (cursor : Cursor) : ScanM Unit := modify fun scanner => { scanner with cursor }

def ahead : (count : Nat) → Cursor → Cursor
  | count + 1, ⟨c :: rest, mark⟩ => ahead count ⟨rest, mark.after c⟩
  | _, cursor => cursor

def skip (count : Nat) : ScanM Unit :=
  modify fun scanner => { scanner with cursor := ahead count scanner.cursor }

def readWhile (kind : Char → Bool) : ScanM (List Char) := do
  let found := (← rest).takeWhile kind
  skip found.length
  return found

/-- The place where the next token starts: behind blanks, comments and line breaks.  A tab counts as
a blank where no key may begin.  Behind a line break in a block a key may begin. -/
def nextToken (inFlow : Bool) : (keyAllowed comment : Bool) → List Char → Mark → Bool × Cursor
  | keyAllowed, _, [], mark => (keyAllowed, ⟨[], mark⟩)
  | keyAllowed, comment, c :: rest, mark =>
    if isBreak c then nextToken inFlow (keyAllowed || !inFlow) false rest (mark.after c)
    else if comment || c == ' ' || (c == '\t' && (inFlow || !keyAllowed))
        || (c == byteOrderMark && mark.column == 0) then
      nextToken inFlow keyAllowed comment rest (mark.after c)
    else if c == '#' then nextToken inFlow keyAllowed true rest (mark.after c)
    else (keyAllowed, ⟨c :: rest, mark⟩)

def toNextToken : ScanM Unit :=
  modify fun scanner =>
    let (keyAllowed, cursor) :=
      nextToken scanner.inFlow scanner.keyAllowed false scanner.cursor.rest scanner.cursor.mark
    { scanner with keyAllowed, cursor }

/-! ### Keys and indentation -/

def emit (token : Token) : ScanM Unit :=
  modify fun scanner => { scanner with tokens := scanner.tokens.push token }

def emitAt (position : Nat) (token : Token) : ScanM Unit :=
  modify fun scanner =>
    { scanner with tokens := scanner.tokens.insertIdxIfInBounds position token }

def allowKey (keyAllowed : Bool) : ScanM Unit :=
  modify fun scanner => { scanner with keyAllowed }

/-- The place of a key that did not get its colon is given up, unless a key had to stand there. -/
def giveUp (key : SimpleKey) : ScanM Unit := do
  if key.required then throw "could not find expected ':'"

def removeKey : ScanM Unit := do
  if let some key := (← get).key then giveUp key
  modify fun scanner => { scanner with key := none }

def saveKey : ScanM Unit := do
  let scanner ← get
  if scanner.keyAllowed then
    let mark := scanner.cursor.mark
    let required := !scanner.inFlow && scanner.indents.head? == some mark.column
    removeKey
    modify fun scanner =>
      { scanner with key := some ⟨required, scanner.tokens.size, mark⟩ }

/-- Whether the place where a key may have begun is too far back. -/
def isStale (mark : Mark) (key : SimpleKey) : Bool :=
  key.mark.line < mark.line || key.mark.index + 1024 < mark.index

def unlessStale (mark : Mark) : Option SimpleKey → ScanM (Option SimpleKey)
  | none => return none
  | some key => do
    if isStale mark key then
      giveUp key
      return none
    return some key

def removeStaleKeys : ScanM Unit := do
  let scanner ← get
  let mark := scanner.cursor.mark
  let outerKeys ← scanner.outerKeys.mapM (unlessStale mark)
  let key ← unlessStale mark scanner.key
  modify fun scanner => { scanner with key, outerKeys }

def openBlock (column position : Nat) (token : Token) : ScanM Unit := do
  let scanner ← get
  if !scanner.inFlow && scanner.margin ≤ column then
    modify fun scanner => { scanner with indents := column :: scanner.indents }
    emitAt position token

def openBlockHere (token : Token) : ScanM Unit := do
  openBlock (← column) (← get).tokens.size token

/-- Closes the block collections whose columns satisfy a condition, from the innermost outwards. -/
def closeBlocks (closes : Nat → Bool) : ScanM Unit := do
  let scanner ← get
  if !scanner.inFlow then
    let closed := (scanner.indents.takeWhile closes).length
    set { scanner with
      indents := scanner.indents.drop closed
      tokens := scanner.tokens ++ Array.replicate closed Token.blockEnd }

/-! ### Directives -/

/-- Reads a number of at most nine digits. -/
def versionNumber : ScanM Nat := do
  let digits ← readWhile Char.isDigit
  if digits.isEmpty then throw "did not find expected version number"
  if 9 < digits.length then throw "found extremely long version number"
  return digits.foldl (fun n c => n * 10 + (c.toNat - '0'.toNat)) 0

def endLine : ScanM Unit := do
  let _ ← readWhile isBlank
  if (← rest).head? == some '#' then
    let _ ← readWhile fun c => !isBreak c
  match ← rest with
  | [] => return ()
  | c :: _ =>
    if isBreak c then skip 1 else throw "did not find expected comment or line break"

/-- Reads a tag handle; what is no handle is the start of a tag. -/
def tagHandle : ScanM (List Char) := do
  if (← rest).head? != some '!' then throw "did not find expected '!'"
  skip 1
  let name ← readWhile isNameChar
  if (← rest).head? == some '!' then
    skip 1
    return '!' :: (name ++ ['!'])
  return '!' :: name

/-- Whether a character may stand in a tag; the last three only where nothing can be mistaken for the
end of an entry. -/
def isTagChar (verbatim : Bool) (c : Char) : Bool :=
  isNameChar c || ";/?:@&=+$.%!~*'()".toList.contains c
    || (verbatim && (c == ',' || c == '[' || c == ']'))

/-- The octets that escapes at the start of a text stand for, at most `count` of them, and what is
behind these.  An escape is a percent sign and two hexadecimal digits. -/
def escapedOctets : (count : Nat) → List Char → Except String (Octets × List Char)
  | 0, cs => return ([], cs)
  | count + 1, '%' :: high :: low :: rest =>
    match Text.digitOf? 16 high, Text.digitOf? 16 low with
    | some high, some low => do
      let (octets, rest) ← escapedOctets count rest
      return (UInt8.ofNat (high * 16 + low) :: octets, rest)
    | _, _ => throw "did not find URI escaped octet"
  | _ + 1, _ => throw "did not find URI escaped octet"

/-- The number of octets that the encoding of a character has if it begins with the given one. -/
def encodingWidth? (leading : UInt8) : Option Nat :=
  if leading < 0x80 then some 1
  else if leading < 0xc0 then none
  else if leading < 0xe0 then some 2
  else if leading < 0xf0 then some 3
  else if leading < 0xf8 then some 4
  else none

/-- The octets that the escapes of one character stand for, and what is behind these.  They need the
form of an encoded character, but not that there is such a character. -/
def escapedCharacter (cs : List Char) : Except String (Octets × List Char) := do
  let (leading, _) ← escapedOctets 1 cs
  let some width := leading.head?.bind encodingWidth?
    | throw "found an incorrect leading UTF-8 octet"
  let (octets, rest) ← escapedOctets width cs
  if octets.tail.all fun octet => octet &&& 0xc0 == 0x80 then return (octets, rest)
  else throw "found an incorrect trailing UTF-8 octet"

def tagOctets : (fuel : Nat) → List Char → Except String Octets
  | 0, _ | _, [] => return []
  | fuel + 1, '%' :: cs => do
    let (octets, rest) ← escapedCharacter ('%' :: cs)
    return octets ++ (← tagOctets fuel rest)
  | fuel + 1, c :: cs => return octetsOf (String.singleton c) ++ (← tagOctets fuel cs)

/-- Reads the rest of a tag, whose start has been read before.  A tag ends before a zero octet. -/
def tagText (verbatim : Bool) (start : List Char) : ScanM Octets := do
  let found ← readWhile (isTagChar verbatim)
  if start.isEmpty && found.isEmpty then throw "did not find expected tag URI"
  let octets := octetsOf (String.ofList (start.drop 1)) ++ (← tagOctets found.length found)
  return octets.takeWhile (· ≠ 0)

def directive : ScanM Unit := do
  let name ← readWhile isNameChar
  if name.isEmpty then throw "could not find expected directive name"
  if !blankNext (← rest) then throw "found unexpected non-alphabetical character"
  let _ ← readWhile isBlank
  if name == "YAML".toList then
    let major ← versionNumber
    if (← rest).head? != some '.' then throw "did not find expected digit or '.' character"
    skip 1
    emit (.version major (← versionNumber))
  else if name == "TAG".toList then
    let handle ← tagHandle
    if handle != ['!'] && (handle.length == 1 || handle.getLast? != some '!') then
      throw "did not find expected '!'"
    if !((← rest).head?.any isBlank) then throw "did not find expected whitespace"
    let _ ← readWhile isBlank
    let uri ← tagText true []
    if !blankNext (← rest) then throw "did not find expected whitespace or line break"
    emit (.tagHandle (String.ofList handle) uri)
  else throw "found unknown directive name"
  endLine

/-! ### Properties of nodes -/

def anchorName : ScanM String := do
  let name ← readWhile isNameChar
  let rest ← rest
  if name.isEmpty || !(blankNext rest || rest.head?.any ("?:,]\x7d%@`".toList.contains ·)) then
    throw "did not find expected alphabetic or numeric character"
  return String.ofList name

def tag : ScanM Token := do
  let token ←
    if (← rest).take 2 == ['!', '<'] then
      skip 2
      let suffix ← tagText true []
      if (← rest).head? != some '>' then throw "did not find the expected '>'"
      skip 1
      pure (Token.tag "" suffix)
    else
      let handle ← tagHandle
      if 1 < handle.length && handle.getLast? == some '!' then
        pure (Token.tag (String.ofList handle) (← tagText false []))
      else
        let suffix ← tagText false handle
        pure (if suffix.isEmpty then .tag "" [localMark] else .tag "!" suffix)
  let rest ← rest
  if !(blankNext rest || ((← get).inFlow && rest.head? == some ',')) then
    throw "did not find expected whitespace or line break"
  return token

/-! ### Scalars -/

def blockHeader (folds : Bool) : ScanM BlockHeader := do
  let marks ← readWhile fun c => c == '+' || c == '-' || c.isDigit
  let chomping : Char → Chomping := fun c => if c == '+' then .keep else .strip
  let (chomping, digit) ← match marks with
    | [] => pure (Chomping.clip, none)
    | [c] => pure (if c.isDigit then (Chomping.clip, some c) else (chomping c, none))
    | [c, d] =>
      if c.isDigit && !d.isDigit then pure (chomping d, some c)
      else if d.isDigit && !c.isDigit then pure (chomping c, some d)
      else throw "did not find expected comment or line break"
    | _ => throw "did not find expected comment or line break"
  if digit == some '0' then throw "found an indentation indicator equal to 0"
  endLine
  let base := (← get).indents.headD 0
  return ⟨folds, chomping, digit.map fun c => base + (c.toNat - '0'.toNat)⟩

def blockScalar (folds : Bool) : ScanM Unit := do
  let header ← blockHeader folds
  let scanner ← get
  let (text, cursor) ← blockLines header scanner.margin scanner.cursor.rest scanner.cursor.mark
    header.indent .empty (.indentation 0)
  moveTo cursor
  emit (.scalar text false)

def quoted (quote : Char) : ScanM Unit := do
  let cursor := (← get).cursor
  let (text, cursor) ← quotedScalar quote cursor.rest cursor.mark [] (.text .none)
  moveTo cursor
  emit (.scalar text false)

def plain : ScanM Unit := do
  let scanner ← get
  let found ← plainScalar scanner.inFlow scanner.margin scanner.cursor.rest scanner.cursor.mark []
    .none
  moveTo found.cursor
  if found.crossedLines then allowKey true
  emit (.scalar found.text true)

/-! ### Structure -/

def marker (token : Token) : ScanM Unit := do
  closeBlocks fun _ => true
  removeKey
  allowKey false
  skip 3
  emit token

def openFlow (token : Token) : ScanM Unit := do
  saveKey
  modify fun scanner =>
    { scanner with key := none, outerKeys := scanner.key :: scanner.outerKeys, keyAllowed := true }
  skip 1
  emit token

def closeFlow (token : Token) : ScanM Unit := do
  removeKey
  modify fun scanner =>
    match scanner.outerKeys with
    | key :: outerKeys => { scanner with key, outerKeys, keyAllowed := false }
    | [] => { scanner with keyAllowed := false }
  skip 1
  emit token

def flowEntry : ScanM Unit := do
  removeKey
  allowKey true
  skip 1
  emit .flowEntry

def blockEntry : ScanM Unit := do
  let scanner ← get
  if !scanner.inFlow && !scanner.keyAllowed then
    throw "block sequence entries are not allowed in this context"
  openBlockHere .blockSequenceStart
  removeKey
  allowKey true
  skip 1
  emit .blockEntry

def explicitKey : ScanM Unit := do
  let scanner ← get
  if !scanner.inFlow && !scanner.keyAllowed then
    throw "mapping keys are not allowed in this context"
  openBlockHere .blockMappingStart
  removeKey
  allowKey !scanner.inFlow
  skip 1
  emit .key

/-- Reads the colon before a value.  If a key may have begun before, it did. -/
def value : ScanM Unit := do
  let scanner ← get
  match scanner.key with
  | some key =>
    emitAt key.position .key
    openBlock key.mark.column key.position .blockMappingStart
    modify fun scanner => { scanner with key := none, keyAllowed := false }
  | none =>
    if !scanner.inFlow && !scanner.keyAllowed then
      throw "mapping values are not allowed in this context"
    openBlockHere .blockMappingStart
    allowKey !scanner.inFlow
  skip 1
  emit .value

def node (read : ScanM Unit) : ScanM Unit := do
  saveKey
  allowKey false
  read

def startsPlain (inFlow : Bool) (c : Char) (rest : List Char) : Bool :=
  !(isBlank c || isBreak c || "-?:,[]\x7b\x7d#&*!|>'\"%@`".toList.contains c)
    || (c == '-' && !(rest.head?.any isBlank))
    || (!inFlow && (c == '?' || c == ':') && !blankNext rest)

def token (c : Char) (rest : List Char) : ScanM Unit := do
  let inFlow := (← get).inFlow
  let column ← column
  if column == 0 && c == '%' then
    closeBlocks fun _ => true
    removeKey
    allowKey false
    skip 1
    directive
  else if column == 0 && startsWithDashes (c :: rest) then marker .documentStart
  else if column == 0 && startsWithDots (c :: rest) then marker .documentEnd
  else if c == '[' then openFlow .flowSequenceStart
  else if c == '\x7b' then openFlow .flowMappingStart
  else if c == ']' then closeFlow .flowSequenceEnd
  else if c == '\x7d' then closeFlow .flowMappingEnd
  else if c == ',' then flowEntry
  else if c == '-' && blankNext rest then blockEntry
  else if c == '?' && (inFlow || blankNext rest) then explicitKey
  else if c == ':' && (inFlow || blankNext rest) then value
  else if c == '*' then node do
    skip 1
    emit (.alias (← anchorName))
  else if c == '&' then node do
    skip 1
    emit (.anchor (← anchorName))
  else if c == '!' then node do emit (← tag)
  else if (c == '|' || c == '>') && !inFlow then
    removeKey
    allowKey true
    skip 1
    blockScalar (c == '>')
  else if c == '\'' || c == '"' then node do
    skip 1
    quoted c
  else if startsPlain inFlow c rest then node plain
  else throw "found character that cannot start any token"

def fetch : ScanM Bool := do
  toNextToken
  removeStaleKeys
  let column ← column
  closeBlocks (column < ·)
  match ← rest with
  | [] =>
    closeBlocks fun _ => true
    removeKey
    return false
  | c :: rest =>
    token c rest
    return true

def fetchAll : (count : Nat) → ScanM Unit
  | 0 => throw "found more tokens than characters"
  | count + 1 => do
    if ← fetch then fetchAll count

end ScanM

def scan (text : String) : Except String (List Token) :=
  let cs := text.toList
  if !cs.all isPrintable then .error "control characters are not allowed"
  else
    let cs := normalizeBreaks cs
    match (ScanM.fetchAll (cs.length + 1)).run (.ofText cs) with
    | .ok ((), scanner) => .ok scanner.tokens.toList
    | .error problem => .error problem

end FlowTracker.Yaml
