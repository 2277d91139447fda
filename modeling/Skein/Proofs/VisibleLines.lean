import Skein.Text.Blank
import Skein.Text.Lines

/-!
# Lines of which something is seen

Content is trimmed as a whole and line by line, joined and split again. Through all of that the
same characters stay visible: the blanks around a line, the blank lines and the carriage returns
at line ends may go, and nothing else. `visibleLines` is what stays, and the two laws that
determine it, `visibleLines_append` and `visibleLines_of_not_mem`, are all that the rest of the
theory uses.

## Main definitions

* `Text.chomp` — a line without the carriage return that belongs to its end
* `Text.endLines` — lines, each with a line feed after it
* `Text.visibleLines` — the lines of a text, each trimmed, without those that are blank

## Main results

* `Text.lines_join` — texts that are ended by line feeds share no line
* `Text.lines_endLines` — ended lines are read back, up to carriage returns
* `Text.visibleLines_append` — the visible lines of a text are those of its parts
* `Text.visibleLines_trim` — trimming a text takes nothing visible from it
-/

namespace Skein

namespace Text

/-! ### Blanks around a text -/

theorem dropEndWhile_append {α : Type} {p : α → Bool} {s t : List α} (ht : t.all p = true) :
    dropEndWhile p (s ++ t) = dropEndWhile p s := by
  have hpos : ∀ a ∈ t.reverse, p a = true := fun a ha =>
    List.all_eq_true.1 ht a (List.mem_reverse.1 ha)
  rw [dropEndWhile, List.reverse_append, List.dropWhile_append_of_pos hpos, dropEndWhile]

theorem exists_eq_dropEndWhile_append {α : Type} (p : α → Bool) (s : List α) :
    ∃ t, t.all p = true ∧ s = dropEndWhile p s ++ t := by
  refine ⟨(s.reverse.takeWhile p).reverse, ?_, ?_⟩
  · rw [List.all_reverse]
    exact List.all_takeWhile
  · rw [dropEndWhile, ← List.reverse_append, List.takeWhile_append_dropWhile, List.reverse_reverse]

/-- A first character is dropped from the end of a text only if everything behind it is, too. -/
theorem dropEndWhile_cons (p : Char → Bool) (c : Char) (s : List Char) :
    dropEndWhile p (c :: s) =
      if dropEndWhile p s = [] ∧ p c = true then [] else c :: dropEndWhile p s := by
  rw [dropEndWhile, dropEndWhile, List.reverse_cons, List.dropWhile_append]
  by_cases hs : s.reverse.dropWhile p = []
  · by_cases hc : p c = true
    · simp [hs, hc]
    · simp [hs, hc]
  · simp [hs]

/-- Blanks before a text do not count. -/
theorem trim_blank_append {s t : List Char} (hs : s.all isBlank = true) :
    trim (s ++ t) = trim t := by
  rw [trim, trimStart, List.dropWhile_append_of_pos (List.all_eq_true.1 hs)]
  rfl

/-- Blanks after a text do not count. -/
theorem trim_append_blank {s t : List Char} (ht : t.all isBlank = true) :
    trim (s ++ t) = trim s := by
  by_cases hs : s.all isBlank = true
  · rw [trim_blank_append hs, trim_eq_nil_iff.2 ht, trim_eq_nil_iff.2 hs]
  · have hne : trimStart s ≠ [] := fun h => hs <| by
      rw [← List.takeWhile_append_dropWhile (p := isBlank) (l := s),
        show s.dropWhile isBlank = [] from h, List.append_nil]
      exact List.all_takeWhile
    have hstart : trimStart (s ++ t) = trimStart s ++ t := by
      rw [trimStart, List.dropWhile_append, if_neg (by simpa [trimStart] using hne)]
      rfl
    rw [trim, hstart, trimEnd, dropEndWhile_append ht]
    rfl

/-- A text is its trimmed text with blanks around it. -/
theorem exists_eq_blank_append_trim (s : List Char) :
    ∃ before after : List Char, before.all isBlank = true ∧ after.all isBlank = true ∧
      s = before ++ trim s ++ after := by
  obtain ⟨after, hafter, heq⟩ := exists_eq_dropEndWhile_append isBlank (trimStart s)
  refine ⟨s.takeWhile isBlank, after, List.all_takeWhile, hafter, ?_⟩
  rw [List.append_assoc, show trim s ++ after = trimStart s from heq.symm]
  exact List.takeWhile_append_dropWhile.symm

@[simp] theorem trim_trim (s : List Char) : trim (trim s) = trim s := by
  obtain ⟨before, after, hbefore, hafter, heq⟩ := exists_eq_blank_append_trim s
  calc trim (trim s) = trim (before ++ trim s ++ after) := by
        rw [trim_append_blank hafter, trim_blank_append hbefore]
    _ = trim s := by rw [← heq]

theorem trim_sublist (s : List Char) : (trim s).Sublist s := by
  obtain ⟨before, after, -, -, heq⟩ := exists_eq_blank_append_trim s
  have hinner : (trim s).Sublist (before ++ trim s ++ after) :=
    (List.sublist_append_right before _).trans (List.sublist_append_left _ after)
  rwa [← heq] at hinner

theorem mem_of_mem_trim {c : Char} {s : List Char} (h : c ∈ trim s) : c ∈ s :=
  (trim_sublist s).subset h

/-! ### The end of a line -/

/-- A line without the carriage return that belongs to its end. -/
def chomp (line : List Char) : List Char :=
  if line.getLast? = some '\r' then line.dropLast else line

/-- A line is the chomped line, with at most a carriage return after it. -/
theorem exists_eq_chomp_append (line : List Char) :
    ∃ t : List Char, t.all isBlank = true ∧ line = chomp line ++ t := by
  by_cases h : line.getLast? = some '\r'
  · obtain ⟨s, rfl⟩ := List.getLast?_eq_some_iff.1 h
    exact ⟨['\r'], by decide, by rw [chomp, if_pos h, List.dropLast_concat]⟩
  · exact ⟨[], rfl, by rw [chomp, if_neg h, List.append_nil]⟩

@[simp] theorem trim_chomp (line : List Char) : trim (chomp line) = trim line := by
  obtain ⟨t, ht, heq⟩ := exists_eq_chomp_append line
  rw [← trim_append_blank (s := chomp line) ht, ← heq]

theorem chomp_cons {c : Char} {line : List Char} (h : line ≠ []) :
    chomp (c :: line) = c :: chomp line := by
  obtain ⟨d, rest, rfl⟩ := List.exists_cons_of_ne_nil h
  by_cases hlast : (d :: rest).getLast? = some '\r'
  · rw [chomp, chomp, if_pos hlast, if_pos (by rwa [List.getLast?_cons_cons]),
      List.dropLast_cons_of_ne_nil h]
  · rw [chomp, chomp, if_neg hlast, if_neg (by rwa [List.getLast?_cons_cons])]

/-! ### Lines one after the other -/

/-- A character that does not belong to a line end is the first one of the first line. -/
theorem lines_cons {c : Char} {s : List Char} (hc : c ≠ '\n')
    (hs : c = '\r' → s.head? ≠ some '\n') :
    lines (c :: s) = match lines s with
      | [] => [[c]]
      | line :: rest => (c :: line) :: rest := by
  refine lines.eq_4 c s hc fun r hr hrest => hs hr ?_
  rw [hrest]
  rfl

/-- The first line of a text ends at its first line feed. -/
theorem lines_append_newline {line : List Char} (h : '\n' ∉ line) (s : List Char) :
    lines (line ++ '\n' :: s) = chomp line :: lines s := by
  induction line with
  | nil => rfl
  | cons c line ih =>
    obtain ⟨hc, hline⟩ : '\n' ≠ c ∧ '\n' ∉ line := by simpa using h
    cases line with
    | nil =>
      by_cases hr : c = '\r'
      · subst hr
        rfl
      · have hchomp : chomp [c] = [c] := if_neg (by simpa using hr)
        rw [List.singleton_append, lines_cons hc.symm fun h => absurd h hr, hchomp]
        rfl
    | cons d line =>
      have hd : d ≠ '\n' := fun h => hline (h ▸ List.mem_cons_self)
      rw [List.cons_append, lines_cons hc.symm fun _ => by simpa using hd, ih hline,
        chomp_cons (List.cons_ne_nil d line)]

/-- A text without line feeds is a single line, unless it is empty. -/
theorem lines_of_not_mem {s : List Char} (h : '\n' ∉ s) (hs : s ≠ []) : lines s = [s] := by
  induction s with
  | nil => exact absurd rfl hs
  | cons c s ih =>
    obtain ⟨hc, hrest⟩ : '\n' ≠ c ∧ '\n' ∉ s := by simpa using h
    have hhead : s.head? ≠ some '\n' := fun heq => hrest (List.mem_of_mem_head? heq)
    rw [lines_cons hc.symm fun _ => hhead]
    cases s with
    | nil => rfl
    | cons d s => rw [ih hrest (List.cons_ne_nil d s)]

/-- Every text is a last line, or a line with its line feed and a text after it. -/
theorem line_induction {motive : List Char → Prop} (last : ∀ s, '\n' ∉ s → motive s)
    (more : ∀ line s, '\n' ∉ line → motive s → motive (line ++ '\n' :: s)) (s : List Char) :
    motive s := by
  induction hn : s.length using Nat.strongRecOn generalizing s with
  | ind n ih =>
    by_cases h : '\n' ∈ s
    · obtain ⟨line, rest, rfl, hline⟩ := List.eq_append_cons_of_mem h
      refine more line rest hline (ih rest.length ?_ rest rfl)
      rw [← hn, List.length_append, List.length_cons]
      omega
    · exact last s h

/-- No line has a line feed in it. -/
theorem not_newline_mem_of_mem_lines {s : List Char} :
    ∀ line ∈ lines s, '\n' ∉ line := by
  induction s using line_induction with
  | last s h =>
    by_cases hs : s = []
    · subst hs
      exact fun line hline => by cases hline
    · rw [lines_of_not_mem h hs]
      intro line hline
      rwa [List.mem_singleton.1 hline]
  | more line s h ih =>
    rw [lines_append_newline h]
    obtain ⟨t, -, heq⟩ := exists_eq_chomp_append line
    refine List.forall_mem_cons.2 ⟨fun hmem => h ?_, ih⟩
    rw [heq]
    exact List.mem_append_left t hmem

theorem mem_of_mem_lines {c : Char} {s line : List Char} (hline : line ∈ lines s) (hc : c ∈ line) :
    c ∈ s := by
  induction s using line_induction with
  | last s h =>
    by_cases hs : s = []
    · subst hs
      cases hline
    · rw [lines_of_not_mem h hs] at hline
      rwa [List.mem_singleton.1 hline] at hc
  | more first s h ih =>
    rw [lines_append_newline h] at hline
    rcases List.mem_cons.1 hline with rfl | hline
    · obtain ⟨t, -, heq⟩ := exists_eq_chomp_append first
      rw [heq]
      exact List.mem_append_left _ (List.mem_append_left _ hc)
    · exact List.mem_append_right _ (List.mem_cons_of_mem _ (ih hline))

/-- Below a text that is ended by a line feed, new lines begin. -/
theorem lines_ended_append (s t : List Char) :
    lines (s ++ ['\n'] ++ t) = lines (s ++ ['\n']) ++ lines t := by
  rw [List.append_assoc, List.singleton_append]
  induction s using line_induction with
  | last s h =>
    rw [lines_append_newline h, lines_append_newline h]
    rfl
  | more line s h ih =>
    rw [List.append_assoc, List.cons_append, lines_append_newline h, ih, List.append_assoc,
      List.cons_append, lines_append_newline h, List.cons_append]

/-- Texts that end their last lines share no line with each other. -/
theorem lines_join {texts : List String} (h : ∀ text ∈ texts, ∃ s, text.toList = s ++ ['\n']) :
    lines (String.join texts).toList = texts.flatMap fun text => lines text.toList := by
  induction texts with
  | nil => rfl
  | cons text texts ih =>
    obtain ⟨⟨s, hs⟩, hrest⟩ := List.forall_mem_cons.1 h
    rw [String.toList_join, List.flatMap_cons, ← String.toList_join, List.flatMap_cons, ← ih hrest,
      hs, lines_ended_append]

/-! ### Ended lines -/

/-- Lines one below the other, each with a line feed after it. -/
def endLines (ls : List (List Char)) : List Char :=
  ls.flatMap (· ++ ['\n'])

@[simp] theorem endLines_nil : endLines [] = [] := rfl

theorem endLines_cons (line : List Char) (ls : List (List Char)) :
    endLines (line :: ls) = line ++ '\n' :: endLines ls := by
  rw [endLines, List.flatMap_cons, List.append_assoc]
  rfl

theorem endLines_concat (ls : List (List Char)) (line : List Char) :
    endLines (ls ++ [line]) = endLines ls ++ line ++ ['\n'] := by
  simp [endLines]

/-- Ended lines are read back, each without the carriage return at its end. -/
theorem lines_endLines {ls : List (List Char)} (h : ∀ line ∈ ls, '\n' ∉ line) :
    lines (endLines ls) = ls.map chomp := by
  induction ls with
  | nil => rfl
  | cons line ls ih =>
    rw [endLines_cons, lines_append_newline (h line List.mem_cons_self),
      ih fun l hl => h l (List.mem_cons_of_mem line hl), List.map_cons]

/-- Ended lines are blank together exactly when each of them is. -/
theorem all_isBlank_endLines {ls : List (List Char)} :
    (endLines ls).all isBlank = true ↔ ∀ line ∈ ls, line.all isBlank = true := by
  induction ls with
  | nil => simp
  | cons line ls ih =>
    rw [endLines_cons, List.all_append, List.all_cons, show isBlank '\n' = true by decide,
      Bool.true_and, Bool.and_eq_true, ih, List.forall_mem_cons]

/-! ### What is seen of a text -/

/-- What is seen of a single line: the line without the blanks around it, and of a blank line
nothing. -/
def visible (line : List Char) : List (List Char) :=
  [trim line].filter (· ≠ [])

/-- **What is seen of a text**: its lines, each trimmed, without those that are blank. -/
def visibleLines (s : List Char) : List (List Char) :=
  (lines s).flatMap visible

theorem visible_of_blank {line : List Char} (h : line.all isBlank = true) : visible line = [] := by
  rw [visible, trim_eq_nil_iff.2 h]
  rfl

theorem visible_congr {line other : List Char} (h : trim line = trim other) :
    visible line = visible other := by
  rw [visible, visible, h]

/-- A single line shows itself. -/
theorem visibleLines_of_not_mem {s : List Char} (h : '\n' ∉ s) : visibleLines s = visible s := by
  by_cases hs : s = []
  · subst hs
    rfl
  · rw [visibleLines, lines_of_not_mem h hs, List.flatMap_cons, List.flatMap_nil, List.append_nil]

/-- A text with a line feed shows what its parts show. -/
theorem visibleLines_append (s t : List Char) :
    visibleLines (s ++ '\n' :: t) = visibleLines s ++ visibleLines t := by
  induction s using line_induction with
  | last s h =>
    rw [visibleLines_of_not_mem h, visibleLines, lines_append_newline h, List.flatMap_cons,
      visible_congr (trim_chomp s), ← visibleLines]
  | more line s h ih =>
    have hfirst : ∀ r, visibleLines (line ++ '\n' :: r) = visible line ++ visibleLines r := by
      intro r
      rw [visibleLines, lines_append_newline h, List.flatMap_cons, visible_congr (trim_chomp line),
        ← visibleLines]
    rw [List.append_assoc, List.cons_append, hfirst, hfirst, ih, List.append_assoc]

/-- Lines show the same, written one below the other or each on its own. -/
theorem visibleLines_joinLines {ls : List (List Char)} (h : ∀ line ∈ ls, '\n' ∉ line) :
    visibleLines (joinLines ls) = ls.flatMap visible := by
  induction ls with
  | nil => rfl
  | cons line ls ih =>
    have hline := visibleLines_of_not_mem (h line List.mem_cons_self)
    have hrest := ih fun l hl => h l (List.mem_cons_of_mem line hl)
    cases ls with
    | nil => simpa [joinLines] using hline
    | cons next ls =>
      rw [joinLines, List.intercalate_cons_cons, List.append_assoc, List.singleton_append,
        visibleLines_append, hline, ← joinLines, hrest]
      rfl

/-- A blank character before a text is not seen. -/
theorem visibleLines_cons {c : Char} (hc : isBlank c = true) (s : List Char) :
    visibleLines (c :: s) = visibleLines s := by
  by_cases hn : c = '\n'
  · subst hn
    exact visibleLines_append [] s
  have hblank : [c].all isBlank = true := by simpa using hc
  have hline : ∀ line, '\n' ∉ line → visibleLines (c :: line) = visibleLines line := by
    intro line h
    rw [visibleLines_of_not_mem h, visibleLines_of_not_mem (by simpa [eq_comm, hn] using h)]
    exact visible_congr (trim_blank_append (s := [c]) hblank)
  induction s using line_induction with
  | last s h => exact hline s h
  | more line s h _ =>
    rw [← List.cons_append, visibleLines_append, visibleLines_append, hline line h]

/-- A blank character after a text is not seen. -/
theorem visibleLines_concat {c : Char} (hc : isBlank c = true) (s : List Char) :
    visibleLines (s ++ [c]) = visibleLines s := by
  by_cases hn : c = '\n'
  · subst hn
    rw [visibleLines_append, show visibleLines [] = [] from rfl, List.append_nil]
  have hblank : [c].all isBlank = true := by simpa using hc
  induction s using line_induction with
  | last s h =>
    rw [visibleLines_of_not_mem h, visibleLines_of_not_mem (by simpa [eq_comm, hn] using h)]
    exact visible_congr (trim_append_blank hblank)
  | more line s h ih =>
    rw [List.append_assoc, List.cons_append, visibleLines_append, ih, visibleLines_append]

/-- Blanks around a text are not seen. -/
theorem visibleLines_blank_append {b : List Char} (hb : b.all isBlank = true) (s : List Char) :
    visibleLines (b ++ s) = visibleLines s := by
  induction b with
  | nil => rfl
  | cons c b ih =>
    obtain ⟨hc, hrest⟩ : isBlank c = true ∧ b.all isBlank = true := by simpa using hb
    rw [List.cons_append, visibleLines_cons hc, ih hrest]

theorem visibleLines_append_blank {b : List Char} (hb : b.all isBlank = true) (s : List Char) :
    visibleLines (s ++ b) = visibleLines s := by
  induction b generalizing s with
  | nil => rw [List.append_nil]
  | cons c b ih =>
    obtain ⟨hc, hrest⟩ : isBlank c = true ∧ b.all isBlank = true := by simpa using hb
    rw [List.append_cons, ih hrest, visibleLines_concat hc]

/-- **Trimming a text takes nothing visible from it.** -/
@[simp] theorem visibleLines_trim (s : List Char) : visibleLines (trim s) = visibleLines s := by
  obtain ⟨before, after, hbefore, hafter, heq⟩ := exists_eq_blank_append_trim s
  calc visibleLines (trim s) = visibleLines (before ++ trim s ++ after) := by
        rw [visibleLines_append_blank hafter, visibleLines_blank_append hbefore]
    _ = visibleLines s := by rw [← heq]

end Text

end Skein
