import Mathlib.Data.Bool.AllAny
import Mathlib.Tactic.MkIffOfInductiveProp
import Skein.Proofs.FrontMarkup

/-!
# Texts that a script takes as they are

A script is taken apart at marks: blocks at `::`, lines at line feeds, clauses at `&&`, words at
blanks. What is put together from pieces is taken apart into the same pieces if the marks stand
between the pieces and nowhere else, so every lemma here has the form that the reader of some mark
undoes the writing of it. A pair of equal characters is the delicate mark: it may not arise from a
piece that ends in the first of them, which is why the pieces are looked at together with the
character that follows.

## Main definitions

* `Text.IsPlain`, `Text.IsLine`, `Text.IsField` — texts that can stand in a script, on one line,
  and on one line without blanks around them

## Main results

* `Text.trim_eq_self_iff` — trimmed texts by their first and last character
* `Text.cutPair_append_pair`, `Text.splitPair_append_pair` — a pair put after a piece is found
* `Text.words_intercalate` — words with spaces between them are read back
* `Text.joinLines_lines` — a text that is ended by a line feed is made up of its lines
* `Text.lines_trim_endLines` — lines are read back from a block that is trimmed as a whole
-/

namespace Skein

namespace Text

/-! ### Trimmed texts -/

theorem dropWhile_eq_self {p : Char → Bool} {s : List Char} (h : ∀ c ∈ s.head?, p c = false) :
    s.dropWhile p = s := by
  cases s with
  | nil => rfl
  | cons c s => exact List.dropWhile_cons_of_neg (by rw [h c rfl]; exact Bool.false_ne_true)

theorem dropEndWhile_eq_self {p : Char → Bool} {s : List Char}
    (h : ∀ c ∈ s.getLast?, p c = false) : dropEndWhile p s = s := by
  rw [← List.head?_reverse] at h
  have hreverse : s.reverse.dropWhile p = s.reverse := dropWhile_eq_self h
  rw [dropEndWhile, hreverse, List.reverse_reverse]

theorem isBlank_of_mem_head?_trimStart {s : List Char} :
    ∀ c ∈ (trimStart s).head?, isBlank c = false := by
  intro c hc
  have h := List.head?_dropWhile_not isBlank s
  rw [← trimStart, hc] at h
  exact h

theorem isBlank_of_mem_getLast?_trimEnd {s : List Char} :
    ∀ c ∈ (trimEnd s).getLast?, isBlank c = false := by
  intro c hc
  rw [trimEnd, dropEndWhile, List.getLast?_reverse] at hc
  exact isBlank_of_mem_head?_trimStart c hc

/-- **A text is trimmed if neither its first nor its last character is blank.** -/
theorem trim_eq_self_iff {s : List Char} :
    trim s = s ↔ (∀ c ∈ s.head?, isBlank c = false) ∧ ∀ c ∈ s.getLast?, isBlank c = false := by
  constructor
  · intro h
    obtain ⟨after, -, hafter⟩ := exists_eq_dropEndWhile_append isBlank (trimStart s)
    have hstart : trimStart s = s := by
      refine (trimStart_suffix s).eq_of_length_le ?_
      calc s.length = (trim s).length := by rw [h]
        _ ≤ (trim s ++ after).length := by rw [List.length_append]; exact Nat.le_add_right _ _
        _ = (trimStart s).length := by rw [hafter]; rfl
    refine ⟨?_, ?_⟩
    · rw [← hstart]
      exact isBlank_of_mem_head?_trimStart
    · rw [← h]
      exact isBlank_of_mem_getLast?_trimEnd
  · rintro ⟨hhead, hlast⟩
    have hstart : trimStart s = s := dropWhile_eq_self hhead
    rw [trim, hstart]
    exact dropEndWhile_eq_self hlast

/-- A text is trimmed whose first and last characters are known and visible. -/
theorem trim_eq_self {s : List Char} {b d : Char} (hb : s.head? = some b) (hd : s.getLast? = some d)
    (hfirst : isBlank b = false) (hlast : isBlank d = false) : trim s = s := by
  refine trim_eq_self_iff.2 ⟨fun c hc => ?_, fun c hc => ?_⟩
  · obtain rfl := Option.some.inj (hb.symm.trans hc)
    exact hfirst
  · obtain rfl := Option.some.inj (hd.symm.trans hc)
    exact hlast

/-- A trimmed text ends visibly. -/
theorem exists_getLast?_of_trim_eq_self {s : List Char} (h : trim s = s) (hne : s ≠ []) :
    ∃ c, s.getLast? = some c ∧ isBlank c = false := by
  obtain ⟨c, hc⟩ : ∃ c, s.getLast? = some c := ⟨_, List.getLast?_eq_some_getLast hne⟩
  exact ⟨c, hc, (trim_eq_self_iff.1 h).2 c hc⟩

/-- A text is trimmed that begins and ends visibly. -/
theorem trim_append_eq_self {s t : List Char} {d : Char} (hs : s ≠ [])
    (hfirst : ∀ c ∈ s.head?, isBlank c = false) (hd : t.getLast? = some d)
    (hlast : isBlank d = false) : trim (s ++ t) = s ++ t := by
  refine trim_eq_self_iff.2 ⟨?_, fun c hc => ?_⟩
  · rwa [List.head?_append_of_ne_nil _ hs]
  · rw [List.getLast?_append, hd] at hc
    obtain rfl := Option.some.inj hc
    exact hlast

/-! ### Marks -/

theorem cutWhere_append_cons {p : Char → Bool} {s : List Char} {c : Char}
    (hs : ∀ b ∈ s, p b = false) (hc : p c = true) (t : List Char) :
    cutWhere p (s ++ c :: t) = some (s, t) := by
  induction s with
  | nil => rw [List.nil_append, cutWhere, if_pos hc]
  | cons b s ih =>
    obtain ⟨hb, hs⟩ := List.forall_mem_cons.1 hs
    rw [List.cons_append, cutWhere, if_neg (by rw [hb]; exact Bool.false_ne_true), ih hs]
    rfl

/-- A pair of characters does not reach across a third one. -/
theorem pair_infix_append_cons {x y c : Char} (hx : c ≠ x) (hy : c ≠ y) {s t : List Char} :
    [x, y] <:+: s ++ c :: t ↔ [x, y] <:+: s ∨ [x, y] <:+: t := by
  induction s with
  | nil =>
    rw [List.nil_append, List.infix_cons_iff, List.cons_prefix_cons]
    simp [hx.symm]
  | cons d s ih =>
    rw [List.cons_append, List.infix_cons_iff, List.infix_cons_iff, ih, or_assoc]
    have hstart : [x, y] <+: d :: (s ++ c :: t) ↔ [x, y] <+: d :: s := by
      cases s with
      | nil => simp [List.cons_prefix_cons, hy.symm]
      | cons e s => simp [List.cons_prefix_cons]
    rw [hstart]

/-- A pair arises at the end if the first of its characters stands there already. -/
theorem pair_infix_concat {x y z : Char} {s : List Char} :
    [x, y] <:+: s ++ [z] ↔ [x, y] <:+: s ∨ (s.getLast? = some x ∧ y = z) := by
  have hend : [x, y] <:+ s ++ [z] ↔ s.getLast? = some x ∧ y = z := by
    rw [← List.singleton_suffix_iff_getLast?_eq_some, ← List.singleton_inj (b := z)]
    show [x] ++ [y] <:+ s ++ [z] ↔ [x] <:+ s ∧ [y] = [z]
    exact List.suffix_append_inj_of_length_eq rfl
  rw [List.infix_concat_iff, hend, or_comm]

/-- A pair that is put after a piece is found there, if it does not arise before. -/
theorem cutPair_append_pair {x y : Char} {s : List Char} (h : ¬[x, y] <:+: s ++ [x])
    (t : List Char) : cutPair x y (s ++ x :: y :: t) = some (s, t) := by
  induction s with
  | nil => rw [List.nil_append, cutPair, if_pos ⟨rfl, rfl⟩]
  | cons c s ih =>
    rw [List.cons_append, List.infix_cons_iff, not_or] at h
    have htail := ih h.2
    cases s with
    | nil =>
      have hne : ¬(c = x ∧ x = y) := fun hcx => h.1 (by simp [hcx.1, ← hcx.2])
      rw [List.nil_append] at htail
      rw [List.singleton_append, cutPair, if_neg hne, htail]
      rfl
    | cons d s =>
      have hne : ¬(c = x ∧ d = y) := fun hcd => h.1 (by simp [hcd.1, hcd.2])
      rw [List.cons_append] at htail
      rw [List.cons_append, List.cons_append, cutPair, if_neg hne, htail]
      rfl

theorem cutPair_of_not_infix {x y : Char} {s : List Char} (h : ¬[x, y] <:+: s) :
    cutPair x y s = none := by
  cases hcut : cutPair x y s with
  | none => rfl
  | some cut =>
    rw [eq_append_of_cutPair hcut] at h
    exact absurd ⟨cut.1, cut.2, by rw [List.append_assoc]; rfl⟩ h

/-- A text is split at the first pair, and then what follows it. -/
theorem splitPair_eq (x y : Char) (s : List Char) :
    splitPair x y s = match cutPair x y s with
      | none => [s]
      | some (before, after) => before :: splitPair x y after := by
  induction s with
  | nil => rfl
  | cons c s ih =>
    cases s with
    | nil => rfl
    | cons d s =>
      rw [splitPair, cutPair]
      split
      · rfl
      · rw [ih]
        cases cutPair x y (d :: s) with
        | none => rfl
        | some cut => rfl

theorem splitPair_of_not_infix {x y : Char} {s : List Char} (h : ¬[x, y] <:+: s) :
    splitPair x y s = [s] := by
  rw [splitPair_eq, cutPair_of_not_infix h]

theorem splitPair_append_pair {x y : Char} {s : List Char} (h : ¬[x, y] <:+: s ++ [x])
    (t : List Char) : splitPair x y (s ++ x :: y :: t) = s :: splitPair x y t := by
  rw [splitPair_eq, cutPair_append_pair h]

/-- What follows a blank is split as if the blank belonged to the first piece. -/
theorem map_trim_splitPair_cons {x y b : Char} (hb : isBlank b = true) (hx : b ≠ x)
    (s : List Char) : (splitPair x y (b :: s)).map trim = (splitPair x y s).map trim := by
  have hblank : ∀ piece, trim (b :: piece) = trim piece := fun piece =>
    trim_blank_append (s := [b]) (by simpa using hb)
  cases s with
  | nil => exact congrArg (fun piece => [piece]) (hblank [])
  | cons d s =>
    rw [splitPair, if_neg fun hbd => hx hbd.1]
    cases splitPair x y (d :: s) with
    | nil => rfl
    | cons piece pieces => exact congrArg (· :: pieces.map trim) (hblank piece)

/-! ### Words -/

theorem splitWhere_of_not {p : Char → Bool} {w : List Char} (h : ∀ c ∈ w, p c = false) :
    splitWhere p w = [w] := by
  induction w with
  | nil => rfl
  | cons c w ih =>
    obtain ⟨hc, hw⟩ := List.forall_mem_cons.1 h
    rw [splitWhere, if_neg (by rw [hc]; exact Bool.false_ne_true), ih hw]
    rfl

theorem splitWhere_append_cons {p : Char → Bool} {w : List Char} {c : Char}
    (h : ∀ b ∈ w, p b = false) (hc : p c = true) (s : List Char) :
    splitWhere p (w ++ c :: s) = w :: splitWhere p s := by
  induction w with
  | nil => rw [List.nil_append, splitWhere, if_pos hc]
  | cons b w ih =>
    obtain ⟨hb, hw⟩ := List.forall_mem_cons.1 h
    rw [List.cons_append, splitWhere, if_neg (by rw [hb]; exact Bool.false_ne_true), ih hw]
    rfl

theorem words_of_not_blank {w : List Char} (hne : w ≠ []) (hw : ∀ c ∈ w, isBlank c = false) :
    words w = [w] := by
  rw [words, splitWhere_of_not hw]
  exact List.filter_cons_of_pos (decide_eq_true hne)

theorem words_append_space {w : List Char} (hne : w ≠ []) (hw : ∀ c ∈ w, isBlank c = false)
    (s : List Char) : words (w ++ ' ' :: s) = w :: words s := by
  rw [words, splitWhere_append_cons hw (by decide)]
  exact List.filter_cons_of_pos (decide_eq_true hne)

/-- **Words with spaces between them are read back.** -/
theorem words_intercalate {ws : List (List Char)}
    (h : ∀ w ∈ ws, w ≠ [] ∧ ∀ c ∈ w, isBlank c = false) : words ([' '].intercalate ws) = ws := by
  induction ws with
  | nil => rfl
  | cons w ws ih =>
    obtain ⟨⟨hne, hw⟩, hws⟩ := List.forall_mem_cons.1 h
    cases ws with
    | nil => rw [List.intercalate_singleton, words_of_not_blank hne hw]
    | cons v ws =>
      rw [List.intercalate_cons_cons, List.append_assoc, List.singleton_append,
        words_append_space hne hw, ih hws]

theorem forall_mem_intercalate {sep : List Char} {pieces : List (List Char)} {p : Char → Prop}
    (hsep : ∀ c ∈ sep, p c) (h : ∀ piece ∈ pieces, ∀ c ∈ piece, p c) :
    ∀ c ∈ sep.intercalate pieces, p c := by
  induction pieces with
  | nil => exact fun c hc => by cases hc
  | cons piece pieces ih =>
    obtain ⟨hpiece, hpieces⟩ := List.forall_mem_cons.1 h
    cases pieces with
    | nil => rwa [List.intercalate_singleton]
    | cons next pieces =>
      rw [List.intercalate_cons_cons, List.forall_mem_append, List.forall_mem_append]
      exact ⟨⟨hpiece, hsep⟩, ih hpieces⟩

/-! ### Plain texts -/

/-- A text that can stand in a script: it divides no blocks, and its line ends are read as they
are. -/
@[mk_iff]
structure IsPlain (s : List Char) : Prop where
  noReturn : '\r' ∉ s
  noMark : ¬[':', ':'] <:+: s

/-- A plain text on one line. -/
@[mk_iff]
structure IsLine (s : List Char) : Prop extends IsPlain s where
  noNewline : '\n' ∉ s

/-- A plain text on one line, without blanks around it. -/
@[mk_iff]
structure IsField (s : List Char) : Prop extends IsLine s where
  trimmed : trim s = s

instance (s : List Char) : Decidable (IsPlain s) :=
  decidable_of_iff _ (isPlain_iff s).symm

instance (s : List Char) : Decidable (IsLine s) :=
  decidable_of_iff _ (isLine_iff s).symm

instance (s : List Char) : Decidable (IsField s) :=
  decidable_of_iff _ (isField_iff s).symm

theorem isPlain_append_cons {c : Char} (hmark : c ≠ ':') (hreturn : c ≠ '\r') {s t : List Char} :
    IsPlain (s ++ c :: t) ↔ IsPlain s ∧ IsPlain t := by
  constructor
  · rintro ⟨hr, hm⟩
    rw [pair_infix_append_cons hmark hmark, not_or] at hm
    exact ⟨⟨fun h => hr (by simp [h]), hm.1⟩, fun h => hr (by simp [h]), hm.2⟩
  · rintro ⟨hs, ht⟩
    refine ⟨?_, ?_⟩
    · simp [hs.noReturn, ht.noReturn, hreturn.symm]
    · rw [pair_infix_append_cons hmark hmark]
      exact not_or.2 ⟨hs.noMark, ht.noMark⟩

/-- Lines are put together with a character between them that is no colon and no line end. -/
theorem IsLine.append_cons {c : Char} (hc : c ∉ [':', '\r', '\n']) {s t : List Char}
    (hs : IsLine s) (ht : IsLine t) : IsLine (s ++ c :: t) := by
  obtain ⟨hmark, hreturn, hnewline⟩ : c ≠ ':' ∧ c ≠ '\r' ∧ c ≠ '\n' := by simpa using hc
  refine ⟨(isPlain_append_cons hmark hreturn).2 ⟨hs.toIsPlain, ht.toIsPlain⟩, ?_⟩
  simp [hs.noNewline, ht.noNewline, hnewline.symm]

theorem isLine_nil : IsLine [] :=
  ⟨⟨by simp, by decide⟩, by simp⟩

theorem IsLine.cons {c : Char} (hc : c ∉ [':', '\r', '\n']) {s : List Char} (hs : IsLine s) :
    IsLine (c :: s) :=
  isLine_nil.append_cons hc hs

theorem IsLine.intercalate {sep : List Char}
    (hsep : ∀ s t, IsLine s → IsLine t → IsLine (s ++ sep ++ t)) {pieces : List (List Char)}
    (h : ∀ piece ∈ pieces, IsLine piece) : IsLine (sep.intercalate pieces) := by
  induction pieces with
  | nil => exact isLine_nil
  | cons piece pieces ih =>
    obtain ⟨hpiece, hpieces⟩ := List.forall_mem_cons.1 h
    cases pieces with
    | nil => rwa [List.intercalate_singleton]
    | cons next pieces =>
      rw [List.intercalate_cons_cons]
      exact hsep _ _ hpiece (ih hpieces)

/-! ### Lines -/

theorem chomp_of_not_mem {line : List Char} (h : '\r' ∉ line) : chomp line = line :=
  if_neg fun hlast => h (List.mem_of_getLast? hlast)

theorem unifyLineEnds_of_not_mem {s : List Char} (h : '\r' ∉ s) : unifyLineEnds s = s := by
  induction s with
  | nil => rfl
  | cons c s ih =>
    obtain ⟨hc, hs⟩ : '\r' ≠ c ∧ '\r' ∉ s := by simpa using h
    rw [unifyLineEnds, ih hs]
    exact fun r hcr => absurd hcr.symm hc

theorem endLines_append (ls more : List (List Char)) :
    endLines (ls ++ more) = endLines ls ++ endLines more :=
  List.flatMap_append

theorem not_return_mem_endLines {ls : List (List Char)} (h : ∀ line ∈ ls, IsLine line) :
    '\r' ∉ endLines ls := by
  intro hmem
  obtain ⟨line, hline, hchar⟩ := List.mem_flatMap.1 hmem
  rcases List.mem_append.1 hchar with hchar | hchar
  · exact (h line hline).noReturn hchar
  · exact absurd hchar (by decide)

/-- **Ended lines are read back.** -/
theorem lines_endLines_of_isLine {ls : List (List Char)} (h : ∀ line ∈ ls, IsLine line) :
    lines (endLines ls) = ls := by
  have hchomp : ls.map chomp = ls.map id :=
    List.map_congr_left fun line hline => chomp_of_not_mem (h line hline).noReturn
  rw [lines_endLines fun line hline => (h line hline).noNewline, hchomp, List.map_id]

/-- The last line is read back without its line feed, too. -/
theorem lines_endLines_append {ls : List (List Char)} {last : List Char}
    (h : ∀ line ∈ ls, IsLine line) (hlast : IsLine last) (hne : last ≠ []) :
    lines (endLines ls ++ last) = ls ++ [last] := by
  induction ls with
  | nil => exact lines_of_not_mem hlast.noNewline hne
  | cons line ls ih =>
    obtain ⟨hline, hls⟩ := List.forall_mem_cons.1 h
    rw [endLines_cons, List.append_assoc, List.cons_append, lines_append_newline hline.noNewline,
      ih hls, chomp_of_not_mem hline.noReturn]
    rfl

/-- A text that is ended by a line feed consists of its lines. -/
theorem endLines_lines {s : List Char} (h : '\r' ∉ s) :
    endLines (lines (s ++ ['\n'])) = s ++ ['\n'] := by
  induction s using line_induction with
  | last s hs =>
    rw [lines_append_newline hs, chomp_of_not_mem h, endLines_cons]
    rfl
  | more line s hline ih =>
    obtain ⟨hl, hs⟩ : '\r' ∉ line ∧ '\r' ∉ s := by simpa using h
    rw [List.append_assoc, List.cons_append, lines_append_newline hline, chomp_of_not_mem hl,
      endLines_cons, ih hs]

/-- Every line stands in the text that the lines make up. -/
theorem infix_endLines_of_mem {line : List Char} {ls : List (List Char)} (h : line ∈ ls) :
    line <:+: endLines ls := by
  obtain ⟨before, after, rfl⟩ := List.append_of_mem h
  refine ⟨endLines before, '\n' :: endLines after, ?_⟩
  rw [endLines_append, endLines_cons, List.append_assoc]

theorem joinLines_append_newline {ls : List (List Char)} (h : ls ≠ []) :
    joinLines ls ++ ['\n'] = endLines ls := by
  induction ls with
  | nil => exact absurd rfl h
  | cons line ls ih =>
    cases ls with
    | nil => rw [joinLines, List.intercalate_singleton, endLines_cons]; rfl
    | cons next ls =>
      rw [joinLines, List.intercalate_cons_cons, ← joinLines, List.append_assoc, List.append_assoc,
        ih (List.cons_ne_nil _ _), endLines_cons line]
      rfl

/-- Lines of a text that is ended by a line feed make it up again. -/
theorem joinLines_lines {s : List Char} (h : '\r' ∉ s) : joinLines (lines (s ++ ['\n'])) = s := by
  have hne : lines (s ++ ['\n']) ≠ [] := fun hnil => by simp [lines_eq_nil_iff] at hnil
  exact List.append_cancel_right ((joinLines_append_newline hne).trans (endLines_lines h))

theorem all_isBlank_joinLines {ls : List (List Char)} :
    (joinLines ls).all isBlank = true ↔ ∀ line ∈ ls, line.all isBlank = true := by
  by_cases hnil : ls = []
  · subst hnil
    exact iff_of_true rfl (List.forall_mem_nil _)
  · rw [← all_isBlank_endLines, ← joinLines_append_newline hnil, List.all_append]
    simp [show isBlank '\n' = true by decide]

/-- The last of the lines, if there is one, ends visibly. -/
def EndVisibly (ls : List (List Char)) : Prop :=
  ∀ last ∈ ls.getLast?, ∃ c, last.getLast? = some c ∧ isBlank c = false

theorem EndVisibly.append {ls more : List (List Char)} (hls : EndVisibly ls)
    (hmore : EndVisibly more) : EndVisibly (ls ++ more) := by
  intro last hlast
  rw [List.getLast?_append] at hlast
  cases h : more.getLast? with
  | none => exact hls last (by simpa [h] using hlast)
  | some line => exact hmore last (by simpa [h] using hlast)

theorem endVisibly_concat {ls : List (List Char)} {last : List Char} {c : Char}
    (hlast : last.getLast? = some c) (hc : isBlank c = false) : EndVisibly (ls ++ [last]) := by
  intro line hline
  rw [List.getLast?_concat] at hline
  obtain rfl := Option.some.inj hline
  exact ⟨c, hlast, hc⟩

theorem endVisibly_singleton {last : List Char} {c : Char} (hlast : last.getLast? = some c)
    (hc : isBlank c = false) : EndVisibly [last] := by
  rw [← List.nil_append [last]]
  exact endVisibly_concat hlast hc

theorem EndVisibly.flatMap {α : Type} {l : List α} {f : α → List (List Char)}
    (h : ∀ a ∈ l, EndVisibly (f a)) : EndVisibly (l.flatMap f) := by
  induction l with
  | nil => exact fun last hlast => by cases hlast
  | cons a l ih =>
    obtain ⟨ha, hl⟩ := List.forall_mem_cons.1 h
    exact ha.append (ih hl)

/-- **Lines are read back from a block that is trimmed as a whole**, if the first of them begins and
the last of them ends visibly. -/
theorem lines_trim_endLines {first : List Char} {rest : List (List Char)}
    (hlines : ∀ line ∈ first :: rest, IsLine line) (hfirst : IsField first) (hne : first ≠ [])
    (hend : EndVisibly (first :: rest)) :
    lines (trim (' ' :: endLines (first :: rest))) = first :: rest := by
  have hlast := List.getLast?_cons (a := first) (l := rest)
  obtain ⟨before, heq⟩ := List.getLast?_eq_some_iff.1 hlast
  obtain ⟨c, hc, hvisible⟩ := hend _ hlast
  generalize rest.getLast?.getD first = last at heq hc
  have hlastne : last ≠ [] := fun hnil => by simp [hnil] at hc
  have htext : endLines (first :: rest) = endLines before ++ last ++ ['\n'] := by
    rw [heq, endLines_concat]
  have htrimmed : trim (endLines before ++ last) = endLines before ++ last := by
    refine trim_eq_self_iff.2 ⟨?_, ?_⟩
    · have hhead := congrArg List.head? htext
      rw [endLines_cons, List.head?_append_of_ne_nil _ hne,
        List.head?_append_of_ne_nil _ (List.append_ne_nil_of_right_ne_nil _ hlastne)] at hhead
      rw [← hhead]
      exact (trim_eq_self_iff.1 hfirst.trimmed).1
    · rw [List.getLast?_append_of_ne_nil _ hlastne, hc]
      exact fun d hd => Option.some.inj hd ▸ hvisible
  rw [heq] at hlines
  obtain ⟨hbefore, hlastline⟩ := List.forall_mem_append.1 hlines
  rw [htext, ← List.singleton_append, trim_blank_append (by decide), trim_append_blank (by decide),
    htrimmed, lines_endLines_append hbefore (hlastline last List.mem_cons_self) hlastne, heq]

/-! ### Blocks -/

/-- Ended lines end with a line feed. -/
theorem eq_newline_of_mem_getLast?_endLines {ls : List (List Char)} {c : Char}
    (h : (endLines ls).getLast? = some c) : c = '\n' := by
  rcases List.eq_nil_or_concat ls with rfl | ⟨before, last, rfl⟩
  · cases h
  · rw [List.concat_eq_append, endLines_concat, List.getLast?_concat] at h
    exact (Option.some.inj h).symm

/-- No mark arises where a block of lines is followed by another mark. -/
theorem not_infix_endLines_append {ls : List (List Char)} (h : ∀ line ∈ ls, IsLine line) :
    ¬[':', ':'] <:+: endLines ls ++ [':'] := by
  induction ls with
  | nil => decide
  | cons line ls ih =>
    obtain ⟨hline, hls⟩ := List.forall_mem_cons.1 h
    rw [endLines_cons, List.append_assoc, List.cons_append,
      pair_infix_append_cons (by decide) (by decide)]
    exact not_or.2 ⟨hline.noMark, ih hls⟩

/-- **Blocks of lines are found** if each of them is put after a mark; nothing stands before the
first of them. -/
theorem splitPair_blocks {blocks : List (List (List Char))}
    (h : ∀ ls ∈ blocks, ∀ line ∈ ls, IsLine line) :
    splitPair ':' ':' (blocks.flatMap fun ls => ':' :: ':' :: ' ' :: endLines ls) =
      [] :: blocks.map fun ls => ' ' :: endLines ls := by
  -- The piece before the first block is generalised, because every block in turn becomes it.
  have hfrom : ∀ s, ¬[':', ':'] <:+: s ++ [':'] →
      splitPair ':' ':' (s ++ blocks.flatMap fun ls => ':' :: ':' :: ' ' :: endLines ls) =
        s :: blocks.map fun ls => ' ' :: endLines ls := by
    induction blocks with
    | nil =>
      intro s hs
      rw [List.flatMap_nil, List.append_nil]
      exact splitPair_of_not_infix fun hpair => hs (hpair.trans (List.prefix_append s _).isInfix)
    | cons ls blocks ih =>
      obtain ⟨hls, hblocks⟩ := List.forall_mem_cons.1 h
      intro s hs
      have hblock : ¬[':', ':'] <:+: [] ++ ' ' :: (endLines ls ++ [':']) := by
        rw [pair_infix_append_cons (by decide) (by decide)]
        exact not_or.2 ⟨by decide, not_infix_endLines_append hls⟩
      rw [List.flatMap_cons, List.cons_append, List.cons_append, splitPair_append_pair hs,
        ih hblocks _ hblock]
      rfl
  exact hfrom [] (by decide)

end Text

end Skein
