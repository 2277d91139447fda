import Skein.Ron.Layout
import Skein.Text.Split

/-!
# Names in RON

Fields, records and alternatives have names of ASCII letters, digits and underscores that do not
begin with a digit. A name after the mark `r#` is raw: it may also hold dots and signs, and begin
with anything of these. Where only certain words may stand, a word is recognised when no further
character of a word follows it.

## Main definitions

* `Ron.readName` — the name at the beginning of a text
* `Ron.skipWord` — what follows a given word

## Main results

* `Ron.readName_append` — a name is read where the text goes on with a character of no name
-/

namespace Skein

namespace Ron

/-- The characters with which a name begins. -/
def isNameStart (c : Char) : Bool :=
  c.isAlpha || c == '_'

/-- The characters of a name. -/
def isNameChar (c : Char) : Bool :=
  c.isAlphanum || c == '_'

/-- The characters of a raw name. -/
def isRawNameChar (c : Char) : Bool :=
  isNameChar c || c == '.' || c == '+' || c == '-'

/-- The name at the beginning of a text, and what follows it. Characters of raw names alone may not
follow a name that is not raw, and a quotation mark after the letter `r` opens a text. -/
def readName : List Char → Option (List Char × List Char)
  | 'r' :: '"' :: _ => none
  | 'r' :: '#' :: s =>
    let name := s.takeWhile isRawNameChar
    if name = [] then none else some (name, s.dropWhile isRawNameChar)
  | s =>
    let rest := s.dropWhile isNameChar
    if s.head?.any isNameStart && !rest.head?.any isRawNameChar then
      some (s.takeWhile isNameChar, rest)
    else none

/-- What follows the given word, if a text begins with it and the word ends there. -/
def skipWord (word s : List Char) : Option (List Char) :=
  (expect word s).filter fun rest => !rest.head?.any isNameChar

/-- **A name is read** where the text goes on with a character of no name. -/
theorem readName_append {name rest : List Char} (hstart : name.head?.any isNameStart = true)
    (hname : name.all isNameChar = true) (hrest : rest.head?.any isRawNameChar = false)
    (hquote : rest.head? ≠ some '"') (hhash : rest.head? ≠ some '#') :
    readName (name ++ rest) = some (name, rest) := by
  have hstop : rest.head?.any isNameChar = false := by
    cases rest with
    | nil => rfl
    | cons c rest => simp_all [isRawNameChar]
  have hdrop := Text.dropWhile_append_of_stop hname hstop
  have htake := Text.takeWhile_append_of_stop hname hstop
  have second : ∀ {x : Char} {s : List Char}, isNameChar x = false → rest.head? ≠ some x →
      name ++ rest ≠ 'r' :: x :: s := by
    intro x s hx hhead heq
    match name with
    | [] => simp at hstart
    | [_] => simp_all
    | _ :: _ :: _ => simp_all
  unfold readName
  split
  · next heq => exact absurd heq (second (by decide) hquote)
  · next heq => exact absurd heq (second (by decide) hhash)
  · simp only [hdrop, htake, hrest, Bool.not_false, Bool.and_true]
    rw [if_pos]
    cases name with
    | nil => simp at hstart
    | cons c name => simpa using hstart

end Ron

end Skein
