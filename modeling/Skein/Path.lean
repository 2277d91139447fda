import Skein.Text.Blank

/-!
# Paths

A path is text: names separated by slashes. Repeated slashes, slashes at the end and the name `.`
inside a path say nothing, but a path that is derived from another keeps the spelling of what is
left of it.

## Main definitions

* `Path.parent?` — the path of the directory that something is in
* `Path.join` — a path that is to be understood relative to a directory
* `Path.extension?` — what follows the last dot of the last name
-/

namespace Skein

namespace Path

open Text

/-- Whether a path is to be understood from the root of all directories. -/
def isAbsolute (path : List Char) : Bool :=
  path.head? = some '/'

/-- The part of a path that stays when its names are taken away from the end: the root, or a `.`
that begins the path. The rest is what the names are in. -/
def splitLead (path : List Char) : List Char × List Char :=
  match path with
  | '/' :: body => (['/'], body)
  | ['.'] => (['.'], [])
  | '.' :: '/' :: body => (['.'], '/' :: body)
  | body => ([], body)

/-- Whether a piece between slashes says nothing. -/
def isIdle (piece : List Char) : Bool :=
  piece = [] || piece = ['.']

/-- The pieces of the part with the names, up to the last one that says something. -/
def pieces (path : List Char) : List (List Char) :=
  dropEndWhile isIdle (splitWhere (· == '/') (splitLead path).2)

/-- The path of the directory that something is in; none for the root and for the empty path. -/
def parent? (path : List Char) : Option (List Char) :=
  match pieces path with
  | [] => if (splitLead path).1 = ['.'] then some [] else none
  | first :: rest =>
    let kept := dropEndWhile isIdle (first :: rest).dropLast
    some ((splitLead path).1 ++ ['/'].intercalate kept)

/-- The second path, understood relative to the first unless it is absolute. -/
def join (base path : List Char) : List Char :=
  if isAbsolute path then path
  else if base = [] ∨ base.getLast? = some '/' then base ++ path
  else base ++ '/' :: path

/-- What follows the last dot of the last name; none if there is no such dot or if the name begins
with it. -/
def extension? (path : List Char) : Option (List Char) :=
  match (pieces path).getLast? with
  | none => none
  | some name =>
    let stem := dropEndWhile (· ≠ '.') name
    if name = ['.', '.'] ∨ stem.length ≤ 1 then none else some (name.drop stem.length)

end Path

end Skein
