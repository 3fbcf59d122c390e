import FlowTracker.Numeral
import FlowTracker.Octets
import FlowTracker.Value

/-!
# YAML nodes

A document is a tree of nodes.  What a plain scalar means is seen from its text: nothing, a truth
value, a number, or the text itself.  Any other scalar is a text, unless a tag says what it is.  A
local tag puts the value of its node into a map, under the tag's name.

A tag is a string of octets, because its escapes need not spell characters.
-/

namespace FlowTracker.Yaml

inductive Node where
  | scalar (tag : Option Octets) (text : String) (plain : Bool)
  | sequence (tag : Option Octets) (items : List Node)
  | mapping (tag : Option Octets) (entries : List (Node × Node))
  /-- The place of a node that stands elsewhere in the document, under a number. -/
  | alias (number : Nat)
  deriving Repr, Inhabited

/-! ### Scalars -/

def isNull (text : String) : Bool := ["null", "Null", "NULL", "~"].contains text

def bool? (text : String) : Option Bool :=
  if ["true", "True", "TRUE"].contains text then some true
  else if ["false", "False", "FALSE"].contains text then some false
  else none

def markedInteger? : List Char → Option Nat
  | '0' :: 'x' :: digits => Text.number? 16 digits
  | '0' :: 'o' :: digits => Text.number? 8 digits
  | '0' :: 'b' :: digits => Text.number? 2 digits
  | _ => none

/-- Whether a text is no number although it consists of digits: it has a leading zero. -/
def isPadded (cs : List Char) : Bool :=
  match cs with
  | '0' :: d :: rest => (d :: rest).all Char.isDigit
  | _ => false

/-- The integer of digits behind a sign, if it fits 128 bits. -/
def magnitude? (negative : Bool) (cs : List Char) : Option Int := do
  let n ← (markedInteger? cs).or (if isPadded cs then none else Text.number? 10 cs)
  if negative then if n ≤ 1 <<< 127 then some (-(n : Int)) else none
  else if n < 1 <<< 128 then some n else none

def integer? : List Char → Option Int
  | '+' :: cs => magnitude? false cs
  | '-' :: cs => magnitude? true cs
  | cs => magnitude? false cs

/-- The infinities and the value that is no number. -/
def special? (text : String) : Option Value :=
  if [".inf", ".Inf", ".INF", "+.inf", "+.Inf", "+.INF"].contains text then
    some (.real 0x7ff0000000000000)
  else if ["-.inf", "-.Inf", "-.INF"].contains text then some (.real 0xfff0000000000000)
  else if [".nan", ".NaN", ".NAN"].contains text then some (.real 0x7ff8000000000000)
  else none

/-- The fraction that a text stands for.  A number with a leading zero in front of further digits is a
text. -/
def real? (text : String) : Option Value := do
  if let some value := special? text then return value
  Numeral.finite? (← Numeral.decimal? text.toList)

def plainValue (text : String) : Value :=
  if text.isEmpty || isNull text then .null
  else
    match bool? text, integer? text.toList with
    | some b, _ => .bool b
    | none, some n => .integer n
    | none, none =>
      let unsigned := match text.toList with
        | '+' :: cs | '-' :: cs => cs
        | cs => cs
      if isPadded unsigned then .text text else (real? text).getD (.text text)

/-! ### Tags -/

def octetsOf (text : String) : Octets := text.toUTF8.toList

/-- What the tags of the language itself begin with. -/
def coreTag (name : String) : Octets := octetsOf ("tag:yaml.org,2002:" ++ name)

def localMark : UInt8 := 0x21

def isMarked (tag : Octets) : Bool := tag.head? == some localMark

/-- The name of a local tag: what stands behind its mark, or the mark if nothing does.  Octets that are
no text name nothing. -/
def localName? (tag : Option Octets) : Option String :=
  match tag with
  | some (mark :: name) =>
    if mark = localMark then
      String.fromUTF8? ⟨(if name.isEmpty then [mark] else name).toArray⟩
    else none
  | _ => none

/-- The value of a node under its local tag, if it has one: the parts of the name between dots are a
path of keys, which ends before the first part that is empty. -/
def underTag (tag : Option Octets) (value : Value) : Value :=
  match localName? tag with
  | some name =>
    .nest (((Text.splitOn '.' name.toList).takeWhile (!·.isEmpty)).map String.ofList) value
  | none => value

/-- The value of a scalar, apart from a local tag. -/
def scalarValue (tag : Option Octets) (text : String) (plain : Bool) : Except String Value :=
  let require (what : String) (value : Option Value) : Except String Value :=
    match value with
    | some value => .ok value
    | none => .error ("invalid value: string " ++ (Inspect.quoted text).inline
        ++ ", expected " ++ what)
  let untagged := if plain then plainValue text else .text text
  match tag with
  | none => .ok untagged
  | some tag =>
    if isMarked tag then .ok untagged
    else if tag == coreTag "bool" then require "a boolean" ((bool? text).map .bool)
    else if tag == coreTag "int" then require "an integer" ((integer? text.toList).map .integer)
    else if tag == coreTag "float" then require "a float" (real? text)
    else if tag == coreTag "null" then require "null" (if isNull text then some .null else none)
    else .ok (.text text)

/-! ### Keys -/

/-- The text of a key.  A tag is ignored here. -/
def Node.keyText : Node → Except String String
  | .scalar _ text _ => .ok text
  | .sequence .. => .error "invalid key: sequence, expected a text"
  | .mapping .. => .error "invalid key: map, expected a text"
  | .alias _ => .error "invalid key: alias, expected a text"

/-- The key of a map under which the value lies that the map stands for. -/
def standInKey : String := "___figment_value_value"

/-- The key of a map under which the number of a value's origin lies.  The number has no effect. -/
def originKey : String := "___figment_value_id"

/-- Whether a node is the number of an origin: an integer that fits a word and has no minus sign. -/
def Node.isOrigin : Node → Bool
  | .scalar tag text plain =>
    match localName? tag, scalarValue tag text plain with
    | none, .ok (.integer n) => 0 ≤ n && Value.fitsWord n && text.toList.head? != some '-'
    | _, _ => false
  | _ => false

/-- The value of a mapping with the given entries: the value that it stands for, or a map. -/
def standIn (entries : List (String × Value)) : Value :=
  (entries.lookup standInKey).getD (.map entries)

end FlowTracker.Yaml
