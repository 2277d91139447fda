/-!
# Layout of RON texts

RON is a notation for structured data: records in parentheses, lists in brackets, quoted text, and
names. Blanks and comments may stand between its parts and mean nothing. A comment reaches to the
end of the line or to its closing mark; comments of the second kind may be nested.

Every reader of this library takes a text and gives what it has read and the text that follows, or
nothing if the text does not begin as it should.

## Main definitions

* `Ron.skipLayout` — what follows the blanks and comments at the beginning of a text
* `Ron.expect` — what follows given characters

## Main results

* `Ron.skipLayout_cons` — where no layout begins, nothing is skipped
* `Ron.expect_append` — given characters are found where they stand
-/

namespace Skein

namespace Ron

/-- The characters that are layout outside of comments. -/
def isLayoutChar (c : Char) : Bool :=
  c == ' ' || c == '\t' || c == '\n' || c == '\r'

/-- Where in the layout a text begins. -/
inductive Surroundings where
  /-- Outside of comments. -/
  | blanks
  /-- In a comment that reaches to the end of the line. -/
  | line
  /-- In a comment that has to be closed, inside as many others as `depth` says. -/
  | block (depth : Nat)

/-- What follows the layout that a text begins in. -/
def skipFrom : Surroundings → List Char → Option (List Char)
  | .blanks, '/' :: '/' :: s => skipFrom .line s
  | .blanks, '/' :: '*' :: s => skipFrom (.block 0) s
  | .blanks, '/' :: _ => none
  | .blanks, c :: s => if isLayoutChar c then skipFrom .blanks s else some (c :: s)
  | .line, '\n' :: s => skipFrom .blanks s
  | .line, _ :: s => skipFrom .line s
  | .block 0, '*' :: '/' :: s => skipFrom .blanks s
  | .block (outer + 1), '*' :: '/' :: s => skipFrom (.block outer) s
  | .block depth, '/' :: '*' :: s => skipFrom (.block (depth + 1)) s
  | .block depth, _ :: s => skipFrom (.block depth) s
  | .block _, [] => none
  | _, [] => some []

/-- **What follows the layout** at the beginning of a text; a slash that begins no comment is an
error wherever layout may stand. -/
def skipLayout (s : List Char) : Option (List Char) :=
  skipFrom .blanks s

@[simp] theorem skipLayout_nil : skipLayout [] = some [] := by
  simp [skipLayout, skipFrom]

/-- Where no layout begins, nothing is skipped. -/
theorem skipLayout_cons {c : Char} (hc : isLayoutChar c = false) (hslash : c ≠ '/')
    (s : List Char) : skipLayout (c :: s) = some (c :: s) := by
  rw [skipLayout, skipFrom]
  · simp [hc]
  all_goals simp [hslash]

/-- Blanks are skipped. -/
theorem skipLayout_blank {c : Char} (hc : isLayoutChar c = true) (s : List Char) :
    skipLayout (c :: s) = skipLayout s := by
  have hslash : c ≠ '/' := by rintro rfl; simp [isLayoutChar] at hc
  rw [skipLayout, skipFrom]
  · simp [hc, skipLayout]
  all_goals simp [hslash]

/-- What follows the given characters, if a text begins with them. -/
def expect : List Char → List Char → Option (List Char)
  | [], s => some s
  | _ :: _, [] => none
  | c :: mark, d :: s => if c = d then expect mark s else none

/-- Given characters are found where they stand. -/
@[simp] theorem expect_append (mark s : List Char) : expect mark (mark ++ s) = some s := by
  induction mark with
  | nil => rfl
  | cons c mark ih => simp [expect, ih]

end Ron

end Skein
