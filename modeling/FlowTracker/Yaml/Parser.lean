import FlowTracker.Yaml.Document
import FlowTracker.Yaml.Scanner

/-!
# The YAML parser

The parser builds a document from its tokens.  A name that is given to a node stands for a number:
for how many names there were before it was given.  A name that is given again counts once, so it may
come to share its number with the next new name.  Of the nodes with one number the last one to start
counts, for aliases before it as well.
-/

namespace FlowTracker.Yaml

structure Parser where
  tokens : List Token
  /-- The names that were given to nodes, with their numbers. -/
  names : List (String × Nat)
  /-- The numbers of the nodes with a name, in the order of their starts; a node that is not complete
  is missing. -/
  anchored : Array (Nat × Option Node)
  /-- The scalars, the aliases, and the starts and ends of collections so far. -/
  steps : Nat
  /-- What the tag handles stand for. -/
  handles : List (String × Octets)
  deriving Repr, Inhabited

abbrev ParseM := StateT Parser (Except String)

namespace ParseM

def peek : ParseM (Option Token) := return (← get).tokens.head?

def skip : ParseM Unit := modify fun parser => { parser with tokens := parser.tokens.tail }

def countSteps (count : Nat) : ParseM Unit :=
  modify fun parser => { parser with steps := parser.steps + count }

/-! ### Properties of nodes -/

def resolveTag (handle : String) (suffix : Octets) : ParseM Octets := do
  if handle.isEmpty then return suffix
  match (← get).handles.lookup handle with
  | some uri => return uri ++ suffix
  | none => throw "found undefined tag handle"

structure Properties where
  anchor : Option String
  tag : Option Octets
  deriving DecidableEq, Repr, Inhabited

def anchor : ParseM (Option String) := do
  match ← peek with
  | some (.anchor name) =>
    skip
    return some name
  | _ => return none

def tag : ParseM (Option Octets) := do
  match ← peek with
  | some (.tag handle suffix) =>
    skip
    return some (← resolveTag handle suffix)
  | _ => return none

def properties : ParseM Properties := do
  match ← anchor with
  | some name => return ⟨some name, ← tag⟩
  | none =>
    match ← tag with
    | some tag => return ⟨← anchor, some tag⟩
    | none => return ⟨none, none⟩

/-- The names with one name given again: its number is the number of names before. -/
def giveName (names : List (String × Nat)) (name : String) : List (String × Nat) :=
  (name, names.length) :: names.filter (·.1 ≠ name)

def named (anchor : Option String) (read : ParseM Node) : ParseM Node := do
  match anchor with
  | none => read
  | some name =>
    let { names, anchored, .. } ← get
    let number := names.length
    modify fun parser =>
      { parser with names := giveName names name, anchored := anchored.push (number, none) }
    let node ← read
    modify fun parser =>
      { parser with
        anchored := parser.anchored.setIfInBounds anchored.size (number, some node) }
    return node

def resolveAlias (name : String) : ParseM Node := do
  match (← get).names.lookup name with
  | some number => return .alias number
  | none => throw "unknown anchor"

/-! ### Nodes -/

def scalar (tag : Option Octets) (text : String) (plain : Bool) : ParseM Node := do
  countSteps 1
  return .scalar tag text plain

/-- A scalar that is left out. -/
def missing : ParseM Node := scalar none "" true

def sequence (tag : Option Octets) (items : List Node) : ParseM Node := do
  countSteps 2
  return .sequence tag items

def mapping (tag : Option Octets) (entries : List (Node × Node)) : ParseM Node := do
  countSteps 2
  return .mapping tag entries

def nextIs (tokens : List Token) : ParseM Bool := do
  match ← peek with
  | some token => return tokens.contains token
  | none => return false

mutual

/-- Reads a node.  Block collections have to be allowed, and a block sequence without an indentation
of its own has to be allowed separately. -/
def node (block indentless : Bool) : (fuel : Nat) → ParseM Node
  | 0 => throw "found more nodes than tokens"
  | fuel + 1 => do
    if let some (.alias name) ← peek then
      skip
      countSteps 1
      return ← resolveAlias name
    let properties ← properties
    named properties.anchor do
      match ← peek with
      | some (.scalar text plain) =>
        skip
        scalar properties.tag text plain
      | some .flowSequenceStart =>
        skip
        sequence properties.tag (← flowSequence true fuel)
      | some .flowMappingStart =>
        skip
        mapping properties.tag (← flowMapping true fuel)
      | next =>
        if next == some .blockEntry && indentless then
          sequence properties.tag (← indentlessSequence fuel)
        else if next == some .blockSequenceStart && block then
          skip
          sequence properties.tag (← blockSequence fuel)
        else if next == some .blockMappingStart && block then
          skip
          mapping properties.tag (← blockMapping fuel)
        else if properties == ⟨none, none⟩ then throw "did not find expected node content"
        else scalar properties.tag "" true

/-- Reads a node, unless one of the given tokens comes next: then it is left out. -/
def nodeUnless (ends : List Token) (block indentless : Bool) : (fuel : Nat) → ParseM Node
  | 0 => throw "found more nodes than tokens"
  | fuel + 1 => do
    if ← nextIs ends then missing else node block indentless fuel

def blockSequence : (fuel : Nat) → ParseM (List Node)
  | 0 => throw "found more entries than tokens"
  | fuel + 1 => do
    match ← peek with
    | some .blockEntry =>
      skip
      let item ← nodeUnless [.blockEntry, .blockEnd] true false fuel
      return item :: (← blockSequence fuel)
    | some .blockEnd =>
      skip
      return []
    | _ => throw "did not find expected '-' indicator"

def indentlessSequence : (fuel : Nat) → ParseM (List Node)
  | 0 => throw "found more entries than tokens"
  | fuel + 1 => do
    match ← peek with
    | some .blockEntry =>
      skip
      let item ← nodeUnless [.blockEntry, .key, .value, .blockEnd] true false fuel
      return item :: (← indentlessSequence fuel)
    | _ => return []

def blockMapping : (fuel : Nat) → ParseM (List (Node × Node))
  | 0 => throw "found more entries than tokens"
  | fuel + 1 => do
    match ← peek with
    | some .key =>
      skip
      let key ← nodeUnless [.key, .value, .blockEnd] true true fuel
      let value ←
        if ← nextIs [.value] then
          skip
          nodeUnless [.key, .value, .blockEnd] true true fuel
        else missing
      return (key, value) :: (← blockMapping fuel)
    | some .blockEnd =>
      skip
      return []
    | _ => throw "did not find expected key"

/-- Reads the entries of a flow sequence, and its end.  An entry with a key is a mapping of its
own. -/
def flowSequence (first : Bool) : (fuel : Nat) → ParseM (List Node)
  | 0 => throw "found more entries than tokens"
  | fuel + 1 => do
    if ← nextIs [.flowSequenceEnd] then
      skip
      return []
    if !first then
      if ← nextIs [.flowEntry] then skip
      else throw "did not find expected ',' or ']'"
    match ← peek with
    | some .key =>
      skip
      let item ← singlePair fuel
      return item :: (← flowSequence false fuel)
    | some .flowSequenceEnd =>
      skip
      return []
    | _ =>
      let item ← node false false fuel
      return item :: (← flowSequence false fuel)

/-- Reads an entry of a flow sequence that is a key and a value.  The token behind a key that is left
out is passed over. -/
def singlePair : (fuel : Nat) → ParseM Node
  | 0 => throw "found more entries than tokens"
  | fuel + 1 => do
    let key ←
      if ← nextIs [.value, .flowEntry, .flowSequenceEnd] then
        skip
        missing
      else node false false fuel
    let value ←
      if ← nextIs [.value] then
        skip
        nodeUnless [.flowEntry, .flowSequenceEnd] false false fuel
      else missing
    mapping none [(key, value)]

/-- Reads the entries of a flow mapping, and its end.  A node without a colon is a key without a
value. -/
def flowMapping (first : Bool) : (fuel : Nat) → ParseM (List (Node × Node))
  | 0 => throw "found more entries than tokens"
  | fuel + 1 => do
    if ← nextIs [.flowMappingEnd] then
      skip
      return []
    if !first then
      if ← nextIs [.flowEntry] then skip
      else throw "did not find expected ',' or '\x7d'"
    match ← peek with
    | some .key =>
      skip
      let key ← nodeUnless [.value, .flowEntry, .flowMappingEnd] false false fuel
      let value ←
        if ← nextIs [.value] then
          skip
          nodeUnless [.flowEntry, .flowMappingEnd] false false fuel
        else missing
      return (key, value) :: (← flowMapping false fuel)
    | some .flowMappingEnd =>
      skip
      return []
    | _ =>
      let key ← node false false fuel
      let value ← missing
      return (key, value) :: (← flowMapping false fuel)

end

/-! ### Documents -/

def usualHandles : List (String × Octets) := [("!", [localMark]), ("!!", coreTag "")]

def directives : (versioned : Bool) → (fuel : Nat) → ParseM Unit
  | _, 0 => return ()
  | versioned, fuel + 1 => do
    match ← peek with
    | some (.version major minor) =>
      if versioned then throw "found duplicate %YAML directive"
      if major != 1 || (minor != 1 && minor != 2) then throw "found incompatible YAML document"
      skip
      directives true fuel
    | some (.tagHandle handle uri) =>
      if (← get).handles.any (·.1 == handle) then throw "found duplicate %TAG directive"
      modify fun parser => { parser with handles := (handle, uri) :: parser.handles }
      skip
      directives versioned fuel
    | _ => return ()

def content (fuel : Nat) : ParseM Node := do
  match ← peek with
  | none | some .documentStart | some .documentEnd | some (.version ..) | some (.tagHandle ..) =>
    missing
  | _ => node true false fuel

def document (fuel : Nat) : ParseM Node := do
  match ← peek with
  | some .documentStart | some (.version ..) | some (.tagHandle ..) =>
    directives false fuel
    let written := (← get).handles
    modify fun parser => { parser with handles := written ++ usualHandles }
    if !(← nextIs [.documentStart]) then throw "did not find expected <document start>"
    skip
    content fuel
  | _ =>
    modify fun parser => { parser with handles := usualHandles }
    node true false fuel

def onlyDocument (fuel : Nat) : ParseM Node := do
  if (← peek).isNone then return ← missing
  let root ← document fuel
  modify fun parser =>
    { parser with tokens := parser.tokens.dropWhile (· == Token.documentEnd) }
  if (← peek).isSome then throw "found more than one document"
  return root

end ParseM

def parse (text : String) : Except String Document := do
  let tokens ← scan text
  let (root, parser) ←
    (ParseM.onlyDocument (4 * (tokens.length + 1))).run ⟨tokens, [], #[], 0, []⟩
  let complete := parser.anchored.toList.reverse.filterMap fun (number, node) =>
    node.map fun node => (number, node)
  return ⟨root, complete, parser.steps⟩

def read (text : String) : Except String (List (String × Value)) := do (← parse text).entries

end FlowTracker.Yaml
