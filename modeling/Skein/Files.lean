import Skein.Text.Blank

/-!
# Files

Stories are read from files and dumps are written to them. What a program needs of a file system is
gathered in one structure over any monad, so that it runs on the real one and on a directory tree
that is a value. In the tree, paths are followed name by name, from the root or from a home, and
every directory on the way has to exist.

## Main definitions

* `FileError` — the causes for which a file cannot be read or written
* `FileAccess` — what a program needs of a file system
* `FileTree` — a directory tree as a value
* `FileTree.follow` — what a path leads to
* `FileTree.access` — the tree as a file system

## Main results

* `FileTree.node?_put` — a file is found where it was put
-/

namespace Skein

/-- The causes for which a file cannot be read or written. -/
inductive FileError where
  /-- There is nothing at the path. -/
  | notFound
  /-- A name on the way is that of a file. -/
  | notDirectory
  /-- At the path is a directory. -/
  | isDirectory
  /-- The path, or a name in it, is longer than a file system allows. -/
  | nameTooLong
  /-- The path holds the character with which the system ends a path. -/
  | malformedPath
  /-- The file holds no text. -/
  | invalidText
  /-- Any other cause, with its wording. -/
  | other (description : String)
  deriving DecidableEq

/-- The wording of an error. -/
def FileError.message : FileError → String
  | notFound => "No such file or directory (os error 2)"
  | notDirectory => "Not a directory (os error 20)"
  | isDirectory => "Is a directory (os error 21)"
  | nameTooLong => "File name too long (os error 36)"
  | malformedPath => "file name contained an unexpected NUL byte"
  | invalidText => "stream did not contain valid UTF-8"
  | other description => description

/-- What a program needs of a file system. -/
structure FileAccess (m : Type → Type) where
  /-- The text in the file at a path. -/
  readText : String → m (Except FileError String)
  /-- Whether there is a file at a path. -/
  isFile : String → m Bool
  /-- Replace or create the file at a path. -/
  writeText : String → String → m (Except FileError Unit)

/-! ### Directory trees -/

/-- The place of a file or a directory: the names that lead to it from the root. -/
abbrev Location := List String

/-- A directory tree: the contents of its files, and where relative paths begin. The directories
are those that lead to a file or to the home. -/
structure FileTree where
  /-- The files, each at most once. -/
  files : List (Location × ByteArray)
  /-- The directory in which relative paths begin. -/
  home : Location

/-- What is found at a place. -/
inductive FileTree.Node where
  /-- A file with its content. -/
  | file (content : ByteArray)
  /-- A directory. -/
  | directory

namespace FileTree

/-- The pieces of a path between its slashes. -/
def pieces (path : String) : List String :=
  (Text.splitWhere (· == '/') path.toList).map String.ofList

/-- The tree that has the given files, by relative paths, in its home. -/
def ofFiles (home : Location) (files : List (String × ByteArray)) : FileTree :=
  ⟨files.map fun (path, content) => (home ++ pieces path, content), home⟩

/-- What is found at a place, if anything. -/
def node? (t : FileTree) (place : Location) : Option Node :=
  match t.files.lookup place with
  | some content => some (.file content)
  | none =>
    if place.isPrefixOf t.home ∨ t.files.any fun (file, _) => place.isPrefixOf file then
      some .directory
    else none

/-- The tree with a file at a place replaced or created. -/
def put (t : FileTree) (place : Location) (content : ByteArray) : FileTree :=
  { t with files := (place, content) :: t.files.filter fun (file, _) => file ≠ place }

/-- A file is found where it was put. -/
@[simp] theorem node?_put (t : FileTree) (place : Location) (content : ByteArray) :
    (t.put place content).node? place = some (.file content) := by
  simp [node?, put]

/-! ### Following a path

A path is followed piece by piece. A piece that says nothing stays where it is, two dots lead
towards the root, and the root is its own parent. -/

/-- The longest name that a file may have, in bytes. -/
def nameLimit : Nat :=
  255

/-- The longest path that may be followed, in bytes. -/
def pathLimit : Nat :=
  4095

/-- What a piece of a path leads to from a directory: a place, and what is there. -/
def step (t : FileTree) (place : Location) (piece : String) :
    Except FileError (Location × Option Node) :=
  if piece = "" ∨ piece = "." then .ok (place, some .directory)
  else if piece = ".." then .ok (place.dropLast, some .directory)
  else if nameLimit < piece.utf8ByteSize then .error .nameTooLong
  else .ok (place ++ [piece], t.node? (place ++ [piece]))

/-- The directory that a piece of a path leads to from a directory. -/
def enter (t : FileTree) (place : Location) (piece : String) : Except FileError Location := do
  match ← t.step place piece with
  | (_, none) => .error .notFound
  | (_, some (.file _)) => .error .notDirectory
  | (next, some .directory) => return next

/-- What a path leads to whose pieces are given; there may be nothing under its last name. -/
def follow (t : FileTree) (place : Location) (path : List String) :
    Except FileError (Location × Option Node) := do
  let directory ← path.dropLast.foldlM t.enter place
  t.step directory (path.getLast?.getD "")

/-- Where a path begins: at the root or at home. -/
def origin (t : FileTree) (path : String) : Except FileError Location :=
  if path.toList.contains '\x00' then .error .malformedPath
  else if path = "" then .error .notFound
  else if pathLimit < path.utf8ByteSize then .error .nameTooLong
  else .ok (if path.toList.head? = some '/' then [] else t.home)

/-! ### Reading and writing -/

/-- What is found at a path. -/
def find (t : FileTree) (path : String) : Except FileError Node := do
  let (_, node) ← t.follow (← t.origin path) (pieces path)
  match node with
  | none => .error .notFound
  | some node => return node

/-- The text in the file at a path. -/
def readText (t : FileTree) (path : String) : Except FileError String := do
  match ← t.find path with
  | .directory => .error .isDirectory
  | .file content =>
    match String.fromUTF8? content with
    | some text => return text
    | none => .error .invalidText

/-- Whether there is a file at a path. -/
def isFile (t : FileTree) (path : String) : Bool :=
  match t.find path with
  | .ok (.file _) => true
  | _ => false

/-- The tree with the file at a path replaced or created. A path that ends with a slash names a
directory, whether there is one or not. -/
def writeText (t : FileTree) (path text : String) : Except FileError FileTree := do
  let origin ← t.origin path
  let names := Text.dropEndWhile (· == "") (pieces path)
  if names.length < (pieces path).length then
    let _ ← names.dropLast.foldlM t.enter origin
    .error .isDirectory
  else
    match ← t.follow origin names with
    | (_, some .directory) => .error .isDirectory
    | (place, _) => return t.put place text.toUTF8

/-- The tree as a file system. -/
def access : FileAccess (StateM FileTree) where
  readText path := do return (← get).readText path
  isFile path := do return (← get).isFile path
  writeText path text := do
    match (← get).writeText path text with
    | .error e => return .error e
    | .ok t => do
      set t
      return .ok ()

end FileTree

end Skein
