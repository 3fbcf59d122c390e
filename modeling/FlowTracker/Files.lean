import FlowTracker.Octets
import FlowTracker.Text

/-!
# Files

What is found under a path.  A program that reads files asks through a function from paths to
`FileStatus`; `FileTree` answers for a directory whose contents are given as a list.  Of the files
around that directory only so much is known as every system has in common: the root is a directory
above itself, and holds a few directories of fixed names.
-/

namespace FlowTracker

inductive FileError where
  | notFound
  /-- The path leads through something that is no directory. -/
  | notDirectory
  | nameTooLong
  /-- The path holds the character that ends paths. -/
  | strayNul
  | other (text : String)
  deriving DecidableEq, Repr, Inhabited

def FileError.message : FileError → String
  | .notFound => "No such file or directory (os error 2)"
  | .notDirectory => "Not a directory (os error 20)"
  | .nameTooLong => "File name too long (os error 36)"
  | .strayNul => "file name contained an unexpected NUL byte"
  | .other text => text

/-- What a read from a directory fails with. -/
def directoryUnreadable : String := "Is a directory (os error 21)"

inductive FileStatus where
  | regular (contents : Octets)
  | directory
  /-- Something else that can be read, such as a device. -/
  | special (contents : Octets)
  | unavailable (error : FileError)
  deriving DecidableEq, Repr, Inhabited

/-! ### File trees -/

inductive FileEntry where
  | regular (contents : Octets)
  | directory
  | special (contents : Octets)
  deriving DecidableEq, Repr, Inhabited

/-- The contents of a directory and of the directories below it, each under its path.  The
directories on the way to an entry need not be listed. -/
abbrev FileTree := List (List String × FileEntry)

namespace FileTree

def parts (path : String) : List String :=
  (Text.splitOn '/' path.toList).map String.ofList

/-- The directories on the way through the parts of a path from a place, and the place that it leads
to.  An empty part and a dot stay where they are, two dots go back. -/
def way (place : List String) : List String → List (List String) × List String
  | [] => ([], place)
  | part :: rest =>
    if part.isEmpty || part == "." then way place rest
    else
      let place := if part == ".." then place.dropLast else place ++ [part]
      let (passed, last) := way place rest
      (if rest.isEmpty then passed else place :: passed, last)

/-- A tree with one more entry, which takes the place of an earlier one; the directories on the way to
it are put in. -/
def put (tree : FileTree) (path : String) (entry : FileEntry) : FileTree :=
  let (passed, place) := way [] (parts path)
  (place, entry) :: (passed.map fun place => (place, FileEntry.directory)) ++ tree

/-- A tree with the entries of the given paths, of which the later ones count. -/
def ofPaths (entries : List (String × FileEntry)) : FileTree :=
  entries.foldl (fun tree entry => tree.put entry.1 entry.2) []

def entry? (tree : FileTree) (place : List String) : Option FileEntry :=
  match tree.find? (·.1 == place) with
  | some found => some found.2
  | none =>
    if place.isEmpty || tree.any (fun entry => place.isPrefixOf entry.1) then some .directory
    else none

/-- Whether a part of a path only moves between directories that are there: an empty part and a dot stay
where they are, two dots go back. -/
def isStep (part : String) : Bool := part.isEmpty || part == "." || part == ".."

/-- Whether a part of a path is too long for the name of a file. -/
def isOverlong (part : String) : Bool := 255 < part.utf8ByteSize

/-- Follows the parts of a path from somewhere above a tree, where directories are, but none whose name
is known. -/
def followAbove : (rest : List String) → FileStatus
  | [] => .directory
  | part :: rest =>
    if isStep part then followAbove rest
    else if isOverlong part then .unavailable .nameTooLong
    else .unavailable .notFound

/-- Follows the parts of a path from a place in the tree.  Two dots at its top stay there if the tree is
`rooted`, and lead out of it if it is not. -/
def follow (tree : FileTree) (rooted : Bool) :
    (place : List String) → (rest : List String) → FileStatus
  | place, [] =>
    match tree.entry? place with
    | some (.regular contents) => .regular contents
    | some .directory => .directory
    | some (.special contents) => .special contents
    | none => .unavailable .notFound
  | place, part :: rest =>
    match tree.entry? place with
    | none => .unavailable .notFound
    | some (.regular _) | some (.special _) => .unavailable .notDirectory
    | some .directory =>
      if part.isEmpty || part == "." then tree.follow rooted place rest
      else if part == ".." then
        if place.isEmpty && !rooted then followAbove rest
        else tree.follow rooted place.dropLast rest
      else if isOverlong part then .unavailable .nameTooLong
      else tree.follow rooted (place ++ [part]) rest

/-- What every system has at the root of its files: the directories of the common hierarchy, and the
device that is always at its end. -/
def system : FileTree :=
  (["dev", "null"], .special []) ::
    ["bin", "boot", "dev", "etc", "home", "lib", "media", "mnt", "opt", "proc", "root", "run", "sbin",
      "srv", "sys", "tmp", "usr", "var"].map fun name => ([name], .directory)

/-- What is found under a path.  A path that begins with a slash starts at the root of all files, any
other at the top of the tree; no path is empty. -/
def lookup (tree : FileTree) (path : String) : FileStatus :=
  if path.isEmpty then .unavailable .notFound
  else if path.contains '\x00' then .unavailable .strayNul
  else if 4096 ≤ path.utf8ByteSize then .unavailable .nameTooLong
  else if path.startsWith "/" then system.follow true [] (parts path)
  else tree.follow false [] (parts path)

end FileTree

end FlowTracker
