import Skein.Text.Blank
import Skein.Text.Split

/-!
# Passage headers

The first line of a passage is its title, then its tags in brackets, then metadata of an editor in
braces: `Town Square [once quiet] {"position":"1,2"}`. Groups are taken out of the line wherever
they stand, bracket groups first; a group that is not closed belongs to the title.

## Main definitions

* `Script.stripGroups` — the text outside of all groups, and what the groups hold
* `Script.Header` — the title and the tags of a passage
* `Script.Header.read` — what a header line says
-/

namespace Skein

namespace Script

open Text

/-- The text outside of all groups from `left` to the next `right`, and what the groups hold. A
group that is not closed is text. -/
def stripGroups (left right : Char) (s : List Char) : List Char × List (List Char) :=
  match _hleft : cutWhere (· == left) s with
  | none => (s, [])
  | some (before, after) =>
    match _hright : cutWhere (· == right) after with
    | none => (s, [])
    | some (inner, rest) =>
      let stripped := stripGroups left right rest
      (before ++ stripped.1, inner :: stripped.2)
termination_by s.length
decreasing_by
  exact Nat.lt_trans (length_lt_of_cutWhere _hright) (length_lt_of_cutWhere _hleft)

/-- The title and the tags of a passage. -/
structure Header where
  /-- The title, without blanks around it. -/
  title : String
  /-- The tags, in order. -/
  tags : List String
  deriving DecidableEq

/-- What a header line says. The first bracket group holds the tags; further bracket groups and all
brace groups are left out. -/
def Header.read (line : List Char) : Header :=
  let untagged := stripGroups '[' ']' line
  let bare := stripGroups '\x7b' '\x7d' untagged.1
  { title := String.ofList (trim bare.1)
    tags := (words (untagged.2.headD [])).map String.ofList }

end Script

end Skein
