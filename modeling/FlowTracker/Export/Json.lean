/-!
# JSON text

The two layouts of exported objects: compact without any blank, and indented by two blanks with one
member per line.  The texts in them are words, in which no character has to be escaped.
-/

namespace FlowTracker

inductive Json where
  | number (value : Nat)
  /-- A text without quotes, backslashes or control characters. -/
  | word (text : String)
  | object (members : List (String × Json))
  deriving Inhabited

namespace Json

mutual

/-- The value without blanks. -/
def compact : Json → String
  | .number value => toString value
  | .word text => "\"" ++ text ++ "\""
  | .object members => "\x7b" ++ compactMembers members ++ "\x7d"

def compactMembers : List (String × Json) → String
  | [] => ""
  | [(name, value)] => "\"" ++ name ++ "\":" ++ compact value
  | (name, value) :: rest =>
      "\"" ++ name ++ "\":" ++ compact value ++ "," ++ compactMembers rest

end

def indent (depth : Nat) : String := String.ofList (List.replicate (2 * depth) ' ')

mutual

/-- The value from the current column on, with one member per line. -/
def indented (depth : Nat) : Json → String
  | .number value => toString value
  | .word text => "\"" ++ text ++ "\""
  | .object [] => "\x7b\x7d"
  | .object members =>
      "\x7b\n" ++ indentedMembers (depth + 1) members ++ "\n" ++ indent depth ++ "\x7d"

def indentedMembers (depth : Nat) : List (String × Json) → String
  | [] => ""
  | [(name, value)] => indent depth ++ "\"" ++ name ++ "\": " ++ indented depth value
  | (name, value) :: rest =>
      indent depth ++ "\"" ++ name ++ "\": " ++ indented depth value ++ ",\n"
        ++ indentedMembers depth rest

end

end Json

end FlowTracker
