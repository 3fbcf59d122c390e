import FlowTracker.Text.Unshown

/-!
# Structural text

Log fields and two of the export formats show a value by its structure: the name of its type, its
fields and their values.  `Inspect` is such a value; `inline` writes it on one line, `block` spreads
it over indented lines with one field or item each.
-/

namespace FlowTracker

/-- The structure of a value as it is shown. -/
inductive Inspect where
  | atom (word : String)
  /-- Named fields in braces. -/
  | record (name : String) (fields : List (String × Inspect))
  /-- Items in parentheses, behind a name that may be empty. -/
  | tuple (name : String) (items : List Inspect)
  deriving Inhabited

namespace Inspect

def nat (n : Nat) : Inspect := .atom (toString n)

def option (value : Option Inspect) : Inspect :=
  match value with
  | none => .atom "None"
  | some shown => .tuple "Some" [shown]

/-! ### On one line -/

mutual

def inline : Inspect → String
  | .atom word => word
  | .record name [] => name
  | .record name fields => name ++ " \x7b " ++ inlineFields fields ++ " \x7d"
  | .tuple name items => name ++ "(" ++ inlineItems items ++ ")"

def inlineFields : List (String × Inspect) → String
  | [] => ""
  | [(label, value)] => label ++ ": " ++ inline value
  | (label, value) :: rest => label ++ ": " ++ inline value ++ ", " ++ inlineFields rest

def inlineItems : List Inspect → String
  | [] => ""
  | [value] => inline value
  | value :: rest => inline value ++ ", " ++ inlineItems rest

end

/-! ### On indented lines -/

def indent (depth : Nat) : String := String.ofList (List.replicate (4 * depth) ' ')

mutual

/-- The value from the current column on, its parts on lines of their own. -/
def block (depth : Nat) : Inspect → String
  | .atom word => word
  | .record name [] => name
  | .record name fields =>
      name ++ " \x7b\n" ++ blockFields (depth + 1) fields ++ indent depth ++ "\x7d"
  | .tuple name items => name ++ "(\n" ++ blockItems (depth + 1) items ++ indent depth ++ ")"

def blockFields (depth : Nat) : List (String × Inspect) → String
  | [] => ""
  | (label, value) :: rest =>
      indent depth ++ label ++ ": " ++ block depth value ++ ",\n" ++ blockFields depth rest

def blockItems (depth : Nat) : List Inspect → String
  | [] => ""
  | value :: rest => indent depth ++ block depth value ++ ",\n" ++ blockItems depth rest

end

/-! ### Quoted text -/

def quoteChar (c : Char) : String :=
  if c = '"' then "\\\""
  else if c = '\\' then "\\\\"
  else if c = '\n' then "\\n"
  else if c = '\r' then "\\r"
  else if c = '\t' then "\\t"
  else if c.toNat = 0 then "\\0"
  else if Text.isUnshown c then
    "\\u\x7b" ++ String.ofList (Nat.toDigits 16 c.toNat) ++ "\x7d"
  else String.singleton c

def quoted (text : String) : Inspect :=
  .atom ("\"" ++ String.join (text.toList.map quoteChar) ++ "\"")

def quotedCharacter (c : Char) : Inspect :=
  .atom ("'" ++ (if c = '\'' then "\\'" else if c = '"' then "\"" else quoteChar c) ++ "'")

end Inspect

end FlowTracker
