/-!
# Cutting a text at a mark

Two kinds of marks divide a script: single characters (a colon, a closing bracket, any blank) and
pairs of characters (`::`, `&&`, `->`, `]]`). A text is cut at the first mark, or split at every
one of them from left to right, where two marks never share a character.

## Main definitions

* `Text.cutWhere` — the texts before and after the first character with a property
* `Text.cutPair` — the texts before and after the first occurrence of a pair of characters
* `Text.splitPair` — the pieces between the occurrences of a pair of characters

## Main results

* `Text.length_lt_of_cutWhere`, `Text.length_lt_of_cutPair` — what follows a mark is shorter than
  the whole, which bounds every loop over the rest of a line
* `Text.takeWhile_append_of_stop`, `Text.dropWhile_append_of_stop` — a run of characters of a class
  ends where a character of another class stands
-/

namespace Skein

namespace Text

/-- The texts before and after the first character that satisfies `p`, if there is one. -/
def cutWhere (p : Char → Bool) : List Char → Option (List Char × List Char)
  | [] => none
  | c :: r =>
    if p c then some ([], r)
    else (cutWhere p r).map fun (before, after) => (c :: before, after)

/-- The texts before and after the first occurrence of `x` followed by `y`, if there is one. -/
def cutPair (x y : Char) : List Char → Option (List Char × List Char)
  | [] => none
  | [_] => none
  | c :: d :: r =>
    if c = x ∧ d = y then some ([], r)
    else (cutPair x y (d :: r)).map fun (before, after) => (c :: before, after)

/-- The pieces between the occurrences of `x` followed by `y`, found from left to right and sharing
no character; empty pieces included. -/
def splitPair (x y : Char) : List Char → List (List Char)
  | [] => [[]]
  | [c] => [[c]]
  | c :: d :: r =>
    if c = x ∧ d = y then [] :: splitPair x y r
    else (splitPair x y (d :: r)).modifyHead (c :: ·)

/-- A text that is cut consists of what stands before the mark, the mark, and what follows it. -/
theorem eq_append_of_cutWhere {p : Char → Bool} {s before after : List Char}
    (h : cutWhere p s = some (before, after)) :
    ∃ c, p c = true ∧ s = before ++ c :: after ∧ ∀ b ∈ before, p b = false := by
  induction s generalizing before with
  | nil => simp [cutWhere] at h
  | cons c r ih =>
    by_cases hc : p c
    · obtain ⟨rfl, rfl⟩ : [] = before ∧ r = after := by simpa [cutWhere, hc] using h
      exact ⟨c, hc, rfl, by simp⟩
    · simp only [cutWhere, hc, Bool.false_eq_true, if_false, Option.map_eq_some_iff] at h
      obtain ⟨⟨before', after'⟩, hcut, heq⟩ := h
      obtain ⟨rfl, rfl⟩ := Prod.mk.inj heq
      obtain ⟨m, hm, rfl, hb⟩ := ih hcut
      exact ⟨m, hm, rfl, by simpa [hc] using hb⟩

theorem length_lt_of_cutWhere {p : Char → Bool} {s before after : List Char}
    (h : cutWhere p s = some (before, after)) : after.length < s.length := by
  obtain ⟨c, -, rfl, -⟩ := eq_append_of_cutWhere h
  simp only [List.length_append, List.length_cons]
  omega

/-- A text that is cut at a pair consists of what stands before it, the pair, and what follows. -/
theorem eq_append_of_cutPair {x y : Char} {s before after : List Char}
    (h : cutPair x y s = some (before, after)) : s = before ++ x :: y :: after := by
  fun_induction cutPair x y s generalizing before with
  | case1 => simp at h
  | case2 => simp at h
  | case3 c d r hcd =>
    obtain ⟨rfl, rfl⟩ := Prod.mk.inj (Option.some.inj h)
    simp [hcd.1, hcd.2]
  | case4 c d r hcd ih =>
    simp only [Option.map_eq_some_iff] at h
    obtain ⟨⟨before', after'⟩, hcut, heq⟩ := h
    obtain ⟨rfl, rfl⟩ := Prod.mk.inj heq
    simp [ih hcut]

theorem length_lt_of_cutPair {x y : Char} {s before after : List Char}
    (h : cutPair x y s = some (before, after)) : after.length < s.length := by
  rw [eq_append_of_cutPair h]
  simp only [List.length_append, List.length_cons]
  omega

/-- A run of characters of a class ends where a character of another class stands. -/
theorem takeWhile_append_of_stop {p : Char → Bool} {s rest : List Char} (hs : s.all p = true)
    (hrest : rest.head?.any p = false) : (s ++ rest).takeWhile p = s := by
  rw [List.takeWhile_append_of_pos (List.all_eq_true.1 hs)]
  cases rest with
  | nil => simp
  | cons c rest => rw [List.takeWhile_cons_of_neg (by simpa using hrest), List.append_nil]

theorem dropWhile_append_of_stop {p : Char → Bool} {s rest : List Char} (hs : s.all p = true)
    (hrest : rest.head?.any p = false) : (s ++ rest).dropWhile p = rest := by
  rw [List.dropWhile_append_of_pos (List.all_eq_true.1 hs)]
  cases rest with
  | nil => rfl
  | cons c rest => exact List.dropWhile_cons_of_neg (by simpa using hrest)

end Text

end Skein
