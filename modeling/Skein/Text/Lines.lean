/-!
# Lines

A line ends at a line feed, and a carriage return directly before that line feed belongs to the
line end. A text that ends with a line feed has no further, empty line after it; a carriage return
anywhere else is an ordinary character.

## Main definitions

* `Text.lines` — the lines of a text
* `Text.unifyLineEnds` — the same text with every line end written as a line feed
* `Text.joinLines` — lines written one below the other, with a line feed between neighbours
-/

namespace Skein

namespace Text

/-- The lines of a text, without their line ends. -/
def lines : List Char → List (List Char)
  | [] => []
  | '\n' :: r => [] :: lines r
  | '\r' :: '\n' :: r => [] :: lines r
  | c :: r =>
    match lines r with
    | [] => [[c]]
    | line :: rest => (c :: line) :: rest

/-- The same text with every carriage return that stands directly before a line feed left out. -/
def unifyLineEnds : List Char → List Char
  | [] => []
  | '\r' :: '\n' :: r => '\n' :: unifyLineEnds r
  | c :: r => c :: unifyLineEnds r

/-- Lines one below the other, with a line feed between neighbours and none at the end. -/
def joinLines (lines : List (List Char)) : List Char :=
  ['\n'].intercalate lines

/-- Only the empty text has no lines. -/
theorem lines_eq_nil_iff {s : List Char} : lines s = [] ↔ s = [] := by
  fun_cases lines s <;> simp_all

end Text

end Skein
