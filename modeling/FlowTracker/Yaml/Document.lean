import FlowTracker.Yaml.Node

/-!
# YAML documents

A document is a root node and the nodes that aliases stand for.  Its value is found by going through
the root; an alias is followed to the last node of its number, wherever in the document that stands,
even if the alias itself stands inside of it.

How deep collections are nested on the way is limited, so a node that contains itself has no value.
How many aliases are followed is limited as well, by the size of the document.
-/

namespace FlowTracker.Yaml

structure Document where
  root : Node
  /-- The nodes that aliases stand for, under their numbers; of two nodes under one number the first
  one counts. -/
  anchored : List (Nat × Node)
  /-- The number of its scalars, its aliases, and the starts and ends of its collections. -/
  size : Nat
  deriving Repr, Inhabited

/-- Programs that go through a document; the state is the number of aliases that may still be
followed. -/
abbrev WalkM := StateT Nat (Except String)

namespace Document

/-- How deep collections may be nested. -/
def depthLimit : Nat := 128

/-- How many aliases may be followed for each part of a document. -/
def jumpLimit : Nat := 100

/-- The node at a place: the node itself, or the one that an alias stands for. -/
def follow (document : Document) : Node → WalkM Node
  | .alias number => do
    match ← get with
    | 0 => throw "repetition limit exceeded"
    | left + 1 =>
      set left
      match document.anchored.lookup number with
      | some node => return node
      | none => throw "unknown anchor"
  | node => return node

/-- The entries of a mapping, behind those that were read before.  Inside of a document the number of an
origin is left out. -/
def members (document : Document) (inner : Bool) (read : Node → WalkM Value)
    (before : List (String × Value)) : List (Node × Node) → WalkM (List (String × Value))
  | [] => return before
  | (key, value) :: rest => do
    let key ← (← document.follow key).keyText
    if inner && key == originKey then
      if !(← document.follow value).isOrigin then
        throw "invalid type: expected the number of an origin"
      document.members inner read before rest
    else document.members inner read (Value.putEntry before key (← read value)) rest

/-- The value of a node.  Collections may be nested as deep as `depth` says. -/
def value (document : Document) : (depth : Nat) → Node → WalkM Value
  | 0, node => do
    match ← document.follow node with
    | .scalar tag text plain => return underTag tag (← scalarValue tag text plain)
    | _ => throw "recursion limit exceeded"
  | depth + 1, node => do
    match ← document.follow node with
    | .scalar tag text plain => return underTag tag (← scalarValue tag text plain)
    | .sequence tag items => return underTag tag (.list (← items.mapM (document.value depth)))
    | .mapping tag entries =>
      return underTag tag (standIn (← document.members true (document.value depth) [] entries))
    | .alias _ => throw "unknown anchor"

/-- The entries of a document: it is a mapping, or it is empty. -/
def entries (document : Document) : Except String (List (String × Value)) :=
  match document.root with
  | .mapping _ entries =>
    (document.members false (document.value (depthLimit - 1)) [] entries).run'
      (document.size * jumpLimit)
  | .scalar _ "" true => .ok []
  | .scalar .. => .error "invalid type: scalar, expected a map"
  | .sequence .. => .error "invalid type: sequence, expected a map"
  | .alias _ => .error "unknown anchor"

end Document

end FlowTracker.Yaml
