import Skein.Draft
import Skein.Script.Directive

/-!
# Content

The content of a passage is prose in which control lines stand: a directive guards the lines below
it by its conditions, `[else]` guards them by the negated conditions instead, and `[continue]` ends
the guard. The content is cut into segments at the control lines; a stretch of blank lines is no
segment. Link markup is still part of the text here.

## Main definitions

* `Script.Control` — what a line of content is
* `Script.Guard` — what an `[else]` would turn around at a given place
* `Script.segments` — the segments of a passage
-/

namespace Skein

namespace Script

open Text

/-- What a line of content is. -/
inductive Control where
  /-- A line that begins with `[if` or `[unless`. -/
  | directive
  /-- The line `[else]`. -/
  | otherwise
  /-- The line `[continue]`. -/
  | resume
  /-- Any other line. -/
  | prose
  deriving DecidableEq

/-- What a line of content is; blanks around it do not count. -/
def Control.ofLine (line : List Char) : Control :=
  let text := trim line
  if text = "[else]".toList then otherwise
  else if text = "[continue]".toList then resume
  else if "[if".toList.isPrefixOf text || "[unless".toList.isPrefixOf text then directive
  else prose

/-- What an `[else]` would turn around at a given place. -/
inductive Guard where
  /-- The place is outside of any guarded text. -/
  | unguarded
  /-- The place is below a directive with the given conditions. -/
  | holding (conditions : List Condition)
  /-- The place is below an `[else]`. -/
  | inverted
  deriving DecidableEq

/-- The segment with one more line of text. -/
def addLine (segment : Segment) (line : List Char) : Segment :=
  { segment with text := segment.text ++ String.ofList line ++ "\n" }

/-- The segment, unless its text is blank. -/
def keep (segment : Segment) : List Segment :=
  if segment.text.toList.all isBlank then [] else [segment]

/-- The segments of the given lines, of which the first continues the segment `current`. -/
def segmentsFrom (guard : Guard) (current : Segment) :
    List (List Char) → Except Fault (List Segment)
  | [] => .ok (keep current)
  | line :: rest =>
    match Control.ofLine line with
    | .prose => segmentsFrom guard (addLine current line) rest
    | .directive => do
      let conditions ← readDirective line
      return keep current ++ (← segmentsFrom (.holding conditions) ⟨"", conditions⟩ rest)
    | .otherwise =>
      match guard with
      | .unguarded => .error .elseWithoutIf
      | .inverted => .error .elseWithoutCondition
      | .holding conditions => do
        return keep current ++
          (← segmentsFrom .inverted ⟨"", conditions.map Condition.negate⟩ rest)
    | .resume =>
      match guard with
      | .unguarded => .error .continueWithoutIf
      | _ => do return keep current ++ (← segmentsFrom .unguarded ⟨"", []⟩ rest)

/-- **The segments of a passage**, given the lines of its content. -/
def segments (lines : List (List Char)) : Except Fault (List Segment) :=
  segmentsFrom .unguarded ⟨"", []⟩ lines

end Script

end Skein
