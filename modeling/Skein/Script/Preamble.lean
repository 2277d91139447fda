import Skein.Effect
import Skein.Script.Fault
import Skein.Text.Blank
import Skein.Text.Integer
import Skein.Text.Split

/-!
# Preambles

The body of a passage may begin with a preamble, which ends at the first line `--`: one entry a
line, each an effect (`addItem: rope`) or the heading of the passage (`setTitle: The Attic`).
Without such a line the whole body is content.

## Main definitions

* `Script.splitBody` — the lines of the preamble and the lines of the content
* `Script.Preamble` — the effects and the heading of a passage
* `Script.Entry.read`, `Script.Preamble.read` — what a line, and what all lines, of a preamble say
-/

namespace Skein

namespace Script

open Text

/-- The line between the preamble and the content. -/
def isSeparator (line : List Char) : Bool :=
  trim line = ['-', '-']

/-- The lines of the preamble and the lines of the content. -/
def splitBody (body : List (List Char)) : List (List Char) × List (List Char) :=
  match body.dropWhile (!isSeparator ·) with
  | [] => ([], body)
  | _ :: content => (body.takeWhile (!isSeparator ·), content)

/-- An entry of a preamble. -/
inductive Entry where
  /-- The heading shown instead of the title. -/
  | heading (text : String)
  /-- Something that happens on a visit. -/
  | effect (effect : Effect)
  deriving DecidableEq

/-- What a line of a preamble says; the line has no blanks around it and is not empty. -/
def Entry.read (line : List Char) : Except Fault Entry :=
  match cutWhere (· == ':') line with
  | none => .error (.malformedEffect (String.ofList line))
  | some (before, after) =>
    let keyword := String.ofList (trim before)
    let value := trim after
    if keyword = "setTitle" then .ok (.heading (String.ofList value))
    else
      match Effect.Kind.ofKeyword? keyword with
      | none => .error (.unknownEffect keyword)
      | some kind =>
        if kind.takesAmount && (readInt? value).isNone then
          .error (.invalidAmount keyword (String.ofList value))
        else .ok (.effect ⟨kind, String.ofList value⟩)

/-- The heading that an entry sets. -/
def Entry.heading? : Entry → Option String
  | heading text => some text
  | effect _ => none

/-- The effect that an entry adds. -/
def Entry.effect? : Entry → Option Effect
  | heading _ => none
  | effect e => some e

/-- The effects and the heading of a passage. -/
structure Preamble where
  /-- What happens on a visit, in order. -/
  effects : List Effect
  /-- The heading shown instead of the title, if one is set. -/
  heading : Option String
  deriving DecidableEq

/-- What the lines of a preamble say. Blank lines say nothing; of several headings the last one
counts, and of several faults the first one is reported. -/
def Preamble.read (lines : List (List Char)) : Except Fault Preamble := do
  let entries ← ((lines.map trim).filter (· ≠ [])).mapM Entry.read
  return {
    effects := entries.filterMap Entry.effect?
    heading := (entries.filterMap Entry.heading?).getLast? }

end Script

end Skein
