import FlowTracker.Text
import FlowTracker.Yaml.Token

/-!
# YAML scalars

How the three kinds of scalars are read: plain ones, quoted ones, and blocks.  In all of them line
breaks are folded: a single break between two words is a space, and of several breaks the first is
left out.  A literal block keeps its breaks.
-/

namespace FlowTracker.Yaml

/-! ### Blanks between words -/

/-- The blanks since the last word of a scalar. -/
inductive Gap where
  /-- Blanks within a line, the last one first. -/
  | within (blanks : List Char)
  /-- At least one line break: the first one, unless it was escaped, and the others, the last one
  first. -/
  | across (first : Option Char) (others : List Char)
  deriving Repr, Inhabited

namespace Gap

def none : Gap := .within []

def push (c : Char) : Gap → Gap
  | .within blanks => if isBreak c then .across (some c) [] else .within (c :: blanks)
  | .across first others => if isBreak c then .across first (c :: others) else .across first others

def folded : Gap → List Char
  | .within blanks => blanks
  | .across (some '\n') [] => [' ']
  | .across (some '\n') others => others
  | .across first others => others ++ first.toList

def crossesLines : Gap → Bool
  | .within _ => false
  | .across .. => true

end Gap

/-! ### Plain scalars -/

structure PlainScalar where
  text : String
  /-- Whether line breaks were passed behind the scalar's last word. -/
  crossedLines : Bool
  cursor : Cursor
  deriving Repr, Inhabited

def isFlowIndicator (c : Char) : Bool :=
  c == ',' || c == '[' || c == ']' || c == '\x7b' || c == '\x7d'

/-- Whether a plain scalar ends before `c`, of which `rest` comes behind. -/
def endsPlain (inFlow : Bool) (c : Char) (rest : List Char) : Bool :=
  (c == ':' && blankNext rest) || (inFlow && isFlowIndicator c)

/-- Whether a colon stands where no plain scalar may have one. -/
def isMisplacedColon (inFlow : Bool) (c : Char) (rest : List Char) : Bool :=
  inFlow && c == ':' && match rest with
    | next :: _ => isFlowIndicator next || next == '?'
    | [] => false

/-- Reads a plain scalar.  In a block, lines left of `margin` do not belong to it; `gap` is what lies
behind the text so far, whose last character comes first. -/
def plainScalar (inFlow : Bool) (margin : Nat) :
    List Char → Mark → (text : List Char) → Gap → Except String PlainScalar
  | [], mark, text, gap =>
    .ok ⟨String.ofList text.reverse, gap.crossesLines, ⟨[], mark⟩⟩
  | c :: rest, mark, text, gap =>
    if isBlank c || isBreak c then
      if c == '\t' && gap.crossesLines && mark.column < margin then
        .error "found a tab character that violates indentation"
      else plainScalar inFlow margin rest (mark.after c) text (gap.push c)
    else
      let afterGap := match gap with
        | .within [] => false
        | _ => true
      if (gap.crossesLines && !inFlow && mark.column < margin)
          || (mark.column == 0 && startsWithMarker (c :: rest))
          || (afterGap && c == '#') then
        .ok ⟨String.ofList text.reverse, gap.crossesLines, ⟨c :: rest, mark⟩⟩
      else if isMisplacedColon inFlow c rest then .error "found unexpected ':'"
      else if endsPlain inFlow c rest then
        .ok ⟨String.ofList text.reverse, gap.crossesLines, ⟨c :: rest, mark⟩⟩
      else plainScalar inFlow margin rest (mark.after c) (c :: (gap.folded ++ text)) Gap.none

/-! ### Quoted scalars -/

abbrev ScalarText := String × Cursor

def escape? : Char → Option Char
  | '0' => some '\x00'
  | 'a' => some '\x07'
  | 'b' => some '\x08'
  | 't' | '\t' => some '\t'
  | 'n' => some '\n'
  | 'v' => some '\x0b'
  | 'f' => some '\x0c'
  | 'r' => some '\r'
  | 'e' => some '\x1b'
  | ' ' => some ' '
  | '"' => some '"'
  | '/' => some '/'
  | '\\' => some '\\'
  | 'N' => some '\u0085'
  | '_' => some '\u00a0'
  | 'L' => some '\u2028'
  | 'P' => some '\u2029'
  | _ => none

def escapeLength? : Char → Option Nat
  | 'x' => some 2
  | 'u' => some 4
  | 'U' => some 8
  | _ => none

inductive QuotePhase where
  /-- Behind a word and a gap. -/
  | text (gap : Gap)
  | escape
  /-- Before `left` digits of a character code. -/
  | code (left : Nat) (value : Nat)
  deriving Repr, Inhabited

/-- Reads a quoted scalar behind its opening quote; the text so far has its last character first. -/
def quotedScalar (quote : Char) :
    List Char → Mark → (text : List Char) → QuotePhase → Except String ScalarText
  | [], _, _, _ => .error "found unexpected end of stream"
  | c :: rest, mark, text, .code left value =>
    match Text.digitOf? 16 c with
    | none => .error "did not find expected hexdecimal number"
    | some digit =>
      let value := value * 16 + digit
      if 1 < left then quotedScalar quote rest (mark.after c) text (.code (left - 1) value)
      else if value.isValidChar then
        quotedScalar quote rest (mark.after c) (Char.ofNat value :: text) (.text Gap.none)
      else .error "found invalid Unicode character escape code"
  | c :: rest, mark, text, .escape =>
    if isBreak c then quotedScalar quote rest (mark.after c) text (.text (.across none []))
    else
      match escape? c, escapeLength? c with
      | some meant, _ => quotedScalar quote rest (mark.after c) (meant :: text) (.text Gap.none)
      | none, some length => quotedScalar quote rest (mark.after c) text (.code length 0)
      | none, none => .error "found unknown escape character"
  | c :: rest, mark, text, .text gap =>
    if isBlank c || isBreak c then
      quotedScalar quote rest (mark.after c) text (.text (gap.push c))
    else if mark.column == 0 && startsWithMarker (c :: rest) then
      .error "found unexpected document indicator"
    else
      let text := gap.folded ++ text
      if c == quote then
        match quote, rest with
        | '\'', '\'' :: rest =>
          quotedScalar quote rest ((mark.after c).after c) ('\'' :: text) (.text Gap.none)
        | _, rest => .ok (String.ofList text.reverse, ⟨rest, mark.after c⟩)
      else if quote == '"' && c == '\\' then
        quotedScalar quote rest (mark.after c) text .escape
      else quotedScalar quote rest (mark.after c) (c :: text) (.text Gap.none)

/-! ### Block scalars -/

/-- What becomes of the line breaks at the end of a block. -/
inductive Chomping where
  /-- They are all left out. -/
  | strip
  /-- The first one stays. -/
  | clip
  /-- They all stay. -/
  | keep
  deriving DecidableEq, Repr, Inhabited

structure BlockHeader where
  folds : Bool
  chomping : Chomping
  /-- The column at which the lines start, if it is given. -/
  indent : Option Nat
  deriving DecidableEq, Repr, Inhabited

/-- A block scalar under way.  Of all texts the last character comes first. -/
structure BlockText where
  text : List Char
  /-- The break behind the last line with contents. -/
  leading : Option Char
  /-- The breaks of the empty lines behind it. -/
  trailing : List Char
  /-- Whether the last line with contents starts with a blank. -/
  startsBlank : Bool
  deriving Repr, Inhabited

namespace BlockText

def empty : BlockText := ⟨[], none, [], false⟩

def startLine (folds : Bool) (c : Char) (block : BlockText) : BlockText :=
  let joins := folds && block.leading == some '\n' && !block.startsBlank && !isBlank c
  let text :=
    if joins then
      if block.trailing.isEmpty then ' ' :: block.text else block.trailing ++ block.text
    else block.trailing ++ block.leading.toList ++ block.text
  ⟨c :: text, none, [], isBlank c⟩

def finish (chomping : Chomping) (block : BlockText) : String :=
  let text := match chomping with
    | .strip => block.text
    | .clip => block.leading.toList ++ block.text
    | .keep => block.trailing ++ block.leading.toList ++ block.text
  String.ofList text.reverse

end BlockText

inductive BlockPhase where
  /-- In the indentation of a line; `widest` is the greatest column so far. -/
  | indentation (widest : Nat)
  | line
  deriving DecidableEq, Repr, Inhabited

/-- Reads the lines of a block scalar.  Lines left of `margin` do not belong to it; `indent` is the
column at which the lines start, as soon as it is known. -/
def blockLines (header : BlockHeader) (margin : Nat) :
    List Char → Mark → (indent : Option Nat) → BlockText → BlockPhase → Except String ScalarText
  | [], mark, _, block, _ => .ok (block.finish header.chomping, ⟨[], mark⟩)
  | c :: rest, mark, indent, block, .line =>
    if isBreak c then
      blockLines header margin rest (mark.after c) indent { block with leading := some c }
        (.indentation 0)
    else
      blockLines header margin rest (mark.after c) indent
        { block with text := c :: block.text } .line
  | c :: rest, mark, indent, block, .indentation widest =>
    let widest := max widest mark.column
    let before := match indent with
      | none => true
      | some indent => mark.column < indent
    if before && c == ' ' then
      blockLines header margin rest (mark.after c) indent block (.indentation widest)
    else if before && c == '\t' then
      .error "found a tab character where an indentation space is expected"
    else if isBreak c then
      blockLines header margin rest (mark.after c) indent
        { block with trailing := c :: block.trailing } (.indentation widest)
    else
      let indent := indent.getD (max widest (max margin 1))
      if mark.column == indent then
        blockLines header margin rest (mark.after c) (some indent)
          (block.startLine header.folds c) .line
      else .ok (block.finish header.chomping, ⟨c :: rest, mark⟩)

end FlowTracker.Yaml
