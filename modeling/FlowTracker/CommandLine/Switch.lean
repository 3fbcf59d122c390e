import FlowTracker.Level

/-!
# The switches of the command line

Three switches set something and take a value; each of them can also be set by a variable of the
environment.  Two switches ask for a text about the program.
-/

namespace FlowTracker.CommandLine

inductive Switch where
  | config
  | logLevel
  | input
  | help
  | version
  deriving DecidableEq, Repr, Inhabited

namespace Switch

/-- All switches, in the order of the help text. -/
def all : List Switch := [.config, .logLevel, .input, .help, .version]

def letter : Switch → Char
  | .config => 'c'
  | .logLevel => 'l'
  | .input => 'i'
  | .help => 'h'
  | .version => 'V'

def word : Switch → String
  | .config => "config"
  | .logLevel => "log-level"
  | .input => "input"
  | .help => "help"
  | .version => "version"

/-- What the value of a switch is called, if it takes one. -/
def operand? : Switch → Option String
  | .config | .input => some "FILE"
  | .logLevel => some "LEVEL"
  | .help | .version => none

def variableName? : Switch → Option String
  | .config => some "EDDY_CONFIG_PATH"
  | .logLevel => some "EDDY_LOG_LEVEL"
  | .input => some "EDDY_INPUT"
  | .help | .version => none

def summary : Switch → String
  | .config => "Set the path to the configuration file (e.g., \"config.yaml\")"
  | .logLevel => "Set the application's log level (e.g., \"debug\", \"warn\")"
  | .input => "ERF capture file to replay"
  | .help => "Print help"
  | .version => "Print version"

def ofLetter? (c : Char) : Option Switch := all.find? (·.letter == c)

def ofWord? (word : String) : Option Switch := all.find? (·.word == word)

def usage (switch : Switch) : String :=
  "--" ++ switch.word ++ match switch.operand? with
    | some operand => " <" ++ operand ++ ">"
    | none => ""

end Switch

/-! ### Similar words -/

/-- The position of the first character between `first` and `last` that equals `c` and is not taken
yet. -/
def findMatch (c : Char) (first last : Nat) (word : List (Char × Bool)) : Option Nat :=
  (word.zipIdx.find? fun entry =>
    first ≤ entry.2 && entry.2 < last && entry.1.1 == c && !entry.1.2).map Prod.snd

def take (position : Nat) (word : List (Char × Bool)) : List (Char × Bool) :=
  word.zipIdx.map fun entry =>
    if entry.2 == position then (entry.1.1, true) else entry.1

/-- The characters of `a` that have a match in `b` near by, in order, and `b` with the matches taken. -/
def matching (reach : Nat) : (position : Nat) → (a : List Char) → (b : List (Char × Bool)) →
    List Char × List (Char × Bool)
  | _, [], b => ([], b)
  | position, c :: rest, b =>
    match findMatch c (position - reach) (position + reach + 1) b with
    | none => matching reach (position + 1) rest b
    | some found =>
      let (matched, b) := matching reach (position + 1) rest (take found b)
      (c :: matched, b)

/-- How similar two words are, from 0 to 1: the mean of the shares of matching characters in both words
and of the share of matches that keep their order.  The shares and their sum are rounded, which decides
about words that lie at a limit. -/
def similarity (a b : String) : Float :=
  let (matchedA, taken) :=
    matching (max a.length b.length / 2 - 1) 0 a.toList (b.toList.map fun c => (c, false))
  let matchedB := (taken.filter Prod.snd).map Prod.fst
  let count := matchedA.length
  let moved := ((matchedA.zip matchedB).countP fun pair => pair.1 != pair.2) / 2
  let share (n d : Nat) : Float := n.toFloat / d.toFloat
  if count = 0 then 0
  else (share count a.length + share count b.length + share (count - moved) count) / 3

/-- How similar a word has to be to be taken for a slip. -/
def similarityLimit : Float := 0.7

/-- The switch whose word is most similar to a word, if one is similar at all; of equally similar ones
the last. -/
def similar? (word : String) : Option Switch :=
  let best := Switch.all.foldl
    (fun (best : Option (Switch × Float)) switch =>
      let similarity := similarity word switch.word
      if similarity ≤ similarityLimit then best
      else
        match best with
        | some (_, highest) =>
          if similarity < highest then best else some (switch, similarity)
        | none => some (switch, similarity))
    none
  best.map Prod.fst

end FlowTracker.CommandLine
