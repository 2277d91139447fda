/-!
# Blank characters, trimming and words

Scripts may be written in any language, so the blanks that surround a title, a tag or a value are
the characters with the Unicode property `White_Space`, not the ASCII ones alone. Text is handled
as a list of characters throughout, so that every function here is a plain list function.

## Main definitions

* `Text.isBlank` — the characters with the property `White_Space`
* `Text.trimStart`, `Text.trimEnd`, `Text.trim` — a text without the blanks around it
* `Text.words` — the maximal runs of characters that are not blank

## Main results

* `Text.trim_eq_nil_iff` — trimming leaves nothing exactly when there are only blanks
-/

namespace Skein

namespace Text

/-- The characters with the Unicode property `White_Space`. The zero width space and the byte
order mark are not among them. -/
def isBlank (c : Char) : Bool :=
  let n := c.toNat
  (0x09 ≤ n && n ≤ 0x0D) || n == 0x20 || n == 0x85 || n == 0xA0 || n == 0x1680 ||
    (0x2000 ≤ n && n ≤ 0x200A) || n == 0x2028 || n == 0x2029 || n == 0x202F || n == 0x205F ||
    n == 0x3000

/-- A list without its last members that satisfy `p`. -/
def dropEndWhile {α : Type} (p : α → Bool) (s : List α) : List α :=
  (s.reverse.dropWhile p).reverse

/-- A text without the blanks before it. -/
def trimStart (s : List Char) : List Char :=
  s.dropWhile isBlank

/-- A text without the blanks after it. -/
def trimEnd (s : List Char) : List Char :=
  dropEndWhile isBlank s

/-- A text without the blanks around it. -/
def trim (s : List Char) : List Char :=
  trimEnd (trimStart s)

@[simp] theorem trim_nil : trim [] = [] := rfl

theorem length_trimStart_le (s : List Char) : (trimStart s).length ≤ s.length :=
  (List.dropWhile_sublist isBlank).length_le

/-- Trimming leaves nothing exactly when there are only blanks. -/
theorem trim_eq_nil_iff {s : List Char} : trim s = [] ↔ s.all isBlank = true := by
  have drop_eq_nil : ∀ t : List Char, t.dropWhile isBlank = [] ↔ t.all isBlank = true := by
    intro t
    induction t with
    | nil => simp
    | cons c t ih => by_cases h : isBlank c <;> simp_all
  rw [trim, trimEnd, dropEndWhile, List.reverse_eq_nil_iff, drop_eq_nil, List.all_reverse,
    trimStart]
  constructor
  · intro h
    rw [← List.takeWhile_append_dropWhile (p := isBlank) (l := s), List.all_append, h,
      Bool.and_true, List.all_eq_true]
    exact fun c hc => List.all_eq_true.1 List.all_takeWhile c hc
  · intro h
    simp [(drop_eq_nil s).2 h]

/-- The pieces of a list between the members that satisfy `p`, empty ones included. -/
def splitWhere {α : Type} (p : α → Bool) : List α → List (List α)
  | [] => [[]]
  | c :: r => if p c then [] :: splitWhere p r else (splitWhere p r).modifyHead (c :: ·)

/-- The maximal runs of characters that are not blank. -/
def words (s : List Char) : List (List Char) :=
  (splitWhere isBlank s).filter (· ≠ [])

end Text

end Skein
