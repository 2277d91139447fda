import Skein.Proofs.Directives
import Skein.Proofs.Segments

/-!
# The opposite directive

`[else]` asks for the opposite of what the directive above it asks for, and so does that directive
with its word exchanged, `unless` for `if` or `if` for `unless`. The two are read in different ways.
The conditions of an `[else]` are those of the guard, turned around; the exchanged directive is read
anew, and its word turns every clause around while it is read. That both give the same conditions is
`readDirective_opposite`, and it holds because nothing but the word of a directive depends on the
word: what follows it is trimmed and split without looking back.

The places below the two lines are still different. Below an `[else]` another `[else]` is a fault,
below a directive it is not. So content in which every `[else]` is spelled out is not cut by the
same run, and the runs are compared by a relation between their guards (`Guard.Spells`): the run on
the spelled out content knows conditions where the other one does not.

## Main definitions

* `Script.exchangeWord` — the opposite directive
* `Script.spellOutElse` — content with every `[else]` replaced by the directive opposite to the one
  above it
* `Script.Guard.Spells` — what the guards of the two runs have to do with each other

## Main results

* `Script.readDirective_opposite` — the opposite directive states the negated conditions
* `Script.Turn.spelled` — a control line leads to the same conditions when it is spelled out
* `Script.segments_spellOutElse` — content is cut into the same segments when it is spelled out
-/

namespace Skein

namespace Script

open Text

/-! ### Reading the opposite -/

theorem readClause_not (positive : Bool) (clause : List Char) :
    readClause (!positive) clause = (readClause positive clause).map Condition.negate := by
  rw [readClause, readClause]
  cases cutWhere isBlank clause with
  | none => rfl
  | some cut =>
    dsimp only
    split
    · rfl
    · split
      · rfl
      · split
        · rfl
        · simp [Except.map, Condition.negate]

theorem readClauses_not (positive : Bool) (clauses : List Char) :
    readClauses (!positive) clauses =
      (readClauses positive clauses).map (List.map Condition.negate) := by
  have hclause : readClause (!positive) =
      fun clause => (readClause positive clause).map Condition.negate :=
    funext (readClause_not positive)
  rw [readClauses, readClauses, hclause, mapM_map_result]

variable {line other tail : List Char} {positive : Bool}

/-- **The opposite directive states the negated conditions**, and it has the same faults, if the
word of the directive is a whole word. -/
theorem readDirective_opposite (h : trim line = '[' :: (directiveWord positive ++ tail))
    (hother : trim other = '[' :: (directiveWord (!positive) ++ tail))
    (hword : (behindWord tail).takeWhile (!isBlank ·) = []) :
    readDirective other = (readDirective line).map (List.map Condition.negate) := by
  rw [readDirective_eq h, readDirective_eq hother, if_pos hword, if_pos hword, readClauses_not]

/-- A directive between brackets, with a space behind its word. -/
theorem readDirective_unless (text : List Char) :
    readDirective ("[unless ".toList ++ text ++ [']']) =
      (readDirective ("[if ".toList ++ text ++ [']'])).map (List.map Condition.negate) := by
  have hif : "[if ".toList ++ text ++ [']'] =
      '[' :: (directiveWord true ++ ' ' :: (text ++ [']'])) := by simp [directiveWord]
  have hunless : "[unless ".toList ++ text ++ [']'] =
      '[' :: (directiveWord false ++ ' ' :: (text ++ [']'])) := by simp [directiveWord]
  rw [hif, hunless, readDirective_between, readDirective_between]
  exact readClauses_not true _

/-! ### Exchanging the word -/

/-- **The opposite directive**: the same line with `unless` in place of `if`, or `if` in place of
`unless`. -/
def exchangeWord (line : List Char) : List Char :=
  line.takeWhile isBlank ++
    match line.dropWhile isBlank with
    | '[' :: 'i' :: 'f' :: rest => "[unless".toList ++ rest
    | '[' :: 'u' :: 'n' :: 'l' :: 'e' :: 's' :: 's' :: rest => "[if".toList ++ rest
    | text => text

theorem trim_exchangeWord (h : trim line = '[' :: (directiveWord positive ++ tail)) :
    trim (exchangeWord line) = '[' :: (directiveWord (!positive) ++ tail) := by
  obtain ⟨after, hafter, heq⟩ := exists_eq_dropEndWhile_append isBlank (trimStart line)
  have hline : line.dropWhile isBlank = '[' :: (directiveWord positive ++ (tail ++ after)) := by
    rw [← List.append_assoc, ← List.cons_append, ← h]
    exact heq
  have hlast : ∀ c ∈ ('[' :: (directiveWord (!positive) ++ tail)).getLast?, isBlank c = false := by
    rcases List.eq_nil_or_concat tail with rfl | ⟨init, d, rfl⟩
    · cases positive <;> simp [directiveWord, isBlank]
    · have hvisible := (trim_eq_self_iff.1 (trim_trim line)).2
      simpa [h, List.getLast?_cons] using hvisible
  have hself : trim ('[' :: (directiveWord (!positive) ++ tail)) =
      '[' :: (directiveWord (!positive) ++ tail) :=
    trim_eq_self_iff.2 ⟨by simp; decide, hlast⟩
  calc trim (exchangeWord line)
      = trim (('[' :: (directiveWord (!positive) ++ tail)) ++ after) := by
        rw [exchangeWord, trim_blank_append List.all_takeWhile, hline]
        cases positive <;> rfl
    _ = '[' :: (directiveWord (!positive) ++ tail) := by rw [trim_append_blank hafter, hself]

/-- The exchanged line is a directive. -/
theorem ofLine_exchangeWord (h : Control.ofLine line = .directive) :
    Control.ofLine (exchangeWord line) = .directive := by
  obtain ⟨positive, tail, hline⟩ := ofLine_eq_directive_iff.1 h
  exact ofLine_eq_directive_iff.2 ⟨!positive, tail, trim_exchangeWord hline⟩

/-- **The exchanged line states the negated conditions.** -/
theorem readDirective_exchangeWord {conditions : List Condition}
    (h : Control.ofLine line = .directive) (hread : readDirective line = .ok conditions) :
    readDirective (exchangeWord line) = .ok (conditions.map Condition.negate) := by
  obtain ⟨positive, tail, hline⟩ := ofLine_eq_directive_iff.1 h
  rw [readDirective_opposite hline (trim_exchangeWord hline)
    (takeWhile_behindWord_of_readDirective hline hread), hread]
  rfl

/-! ### Content without `[else]` -/

/-- A line with an `[else]` replaced by the directive opposite to the one above, if there is one. -/
def spellLineOut (above : Option (List Char)) (line : List Char) : List Char :=
  if Control.ofLine line = .otherwise then (above.map exchangeWord).getD line else line

/-- The directive that is the nearest one above the lines below a line. -/
def directiveAbove (above : Option (List Char)) (line : List Char) : Option (List Char) :=
  if Control.ofLine line = .directive then some line else above

/-- **Content with every `[else]` replaced** by the directive opposite to the nearest one above. -/
def spellOutElse (above : Option (List Char)) : List (List Char) → List (List Char)
  | [] => []
  | line :: below => spellLineOut above line :: spellOutElse (directiveAbove above line) below

/-- What the guard of a run has to do with the guard of the run on the spelled out content, where a
directive is above or none: they are the same, but below an `[else]` the latter still has the
conditions of the line that stands in its place. -/
inductive Guard.Spells (above : Option (List Char)) : Guard → Guard → Prop where
  /-- Outside of guarded text. -/
  | unguarded : Spells above .unguarded .unguarded
  /-- Below a directive, which is the nearest one above. -/
  | holding {line : List Char} {conditions : List Condition} (habove : above = some line)
      (hline : Control.ofLine line = .directive) (hread : readDirective line = .ok conditions) :
      Spells above (.holding conditions) (.holding conditions)
  /-- Below an `[else]`. -/
  | inverted {conditions : List Condition} : Spells above .inverted (.holding conditions)

variable {above : Option (List Char)} {guard guard' next : Guard} {conditions : List Condition}

/-- **A control line leads to the same conditions when it is spelled out**, and it is no `[else]`
then. -/
theorem Turn.spelled (hturn : Turn line guard next conditions)
    (hguard : Guard.Spells above guard guard') :
    Control.ofLine (spellLineOut above line) ≠ .otherwise ∧
      ∃ next', Turn (spellLineOut above line) guard' next' conditions ∧
        Guard.Spells (directiveAbove above line) next next' := by
  cases hturn with
  | directive hline hread =>
    have hsame : spellLineOut above line = line := by simp [spellLineOut, hline]
    have habove : directiveAbove above line = some line := if_pos hline
    rw [hsame, habove, hline]
    exact ⟨by simp, _, .directive hline hread, .holding rfl hline hread⟩
  | otherwise hline =>
    cases hguard with
    | @holding directive _ habove hdirective hread =>
      have hout : spellLineOut above line = exchangeWord directive := by
        simp [spellLineOut, hline, habove]
      have hexchanged := ofLine_exchangeWord hdirective
      rw [hout, hexchanged]
      exact ⟨by simp, _, .directive hexchanged (readDirective_exchangeWord hdirective hread),
        .inverted⟩
  | resume hline hne =>
    have hsame : spellLineOut above line = line := by simp [spellLineOut, hline]
    have hresume : guard' ≠ .unguarded := by
      cases hguard with
      | unguarded => exact absurd rfl hne
      | holding => simp
      | inverted => simp
    rw [hsame, hline]
    exact ⟨by simp, _, .resume hline hresume, .unguarded⟩

/-- Runs whose guards have to do with each other cut the content into the same segments. -/
theorem segmentsFrom_spellOutElse {current : Segment} {lines : List (List Char)}
    {segs : List Segment} (hguard : Guard.Spells above guard guard')
    (h : segmentsFrom guard current lines = .ok segs) :
    segmentsFrom guard' current (spellOutElse above lines) = .ok segs ∧
      ∀ line ∈ spellOutElse above lines, Control.ofLine line ≠ .otherwise := by
  induction lines generalizing above guard guard' current segs with
  | nil => exact ⟨h, List.forall_mem_nil _⟩
  | cons line below ih =>
    rw [spellOutElse, List.forall_mem_cons, segmentsFrom_cons_eq_ok]
    rcases segmentsFrom_cons_eq_ok.1 h with
      ⟨hline, hmore⟩ | ⟨next, conditions, more, hturn, hmore, rfl⟩
    · have hsame : spellLineOut above line = line := by simp [spellLineOut, hline]
      have habove : directiveAbove above line = above := by simp [directiveAbove, hline]
      obtain ⟨hsegs, hnone⟩ := ih hguard hmore
      rw [hsame, habove, hline]
      exact ⟨.inl ⟨rfl, hsegs⟩, by simp, hnone⟩
    · obtain ⟨hline, next', hturn', hguard'⟩ := hturn.spelled hguard
      obtain ⟨hsegs, hnone⟩ := ih hguard' hmore
      exact ⟨.inr ⟨next', conditions, more, hturn', hsegs, rfl⟩, hline, hnone⟩

/-- **`[else]` is the opposite directive with the same clauses.** Content that can be cut can also
be cut with every `[else]` spelled out, into the same segments, and then there is no `[else]` left
in it. A directive that begins with `unless` states the conditions of the one that begins with
`if`, all of them negated, or it has the same fault. -/
theorem segments_spellOutElse :
    (∀ lines segs, segments lines = .ok segs →
      segments (spellOutElse none lines) = .ok segs ∧
        ∀ line ∈ spellOutElse none lines, Control.ofLine line ≠ .otherwise) ∧
    ∀ text : List Char,
      readDirective ("[unless ".toList ++ text ++ [']']) =
        (readDirective ("[if ".toList ++ text ++ [']'])).map (List.map Condition.negate) :=
  ⟨fun _ _ h => segmentsFrom_spellOutElse .unguarded h, readDirective_unless⟩

/-- A cellar, with a lamp or in the dark. -/
def cellarLines : List (List Char) :=
  ["The cellar.".toList, "  [unless hasItem lamp && !fact day]".toList, "It is dark.".toList,
    "[else]".toList, "Barrels.".toList, "[continue]".toList]

/-- The same cellar without an `[else]`. -/
def cellarLinesSpelledOut : List (List Char) :=
  ["The cellar.".toList, "  [unless hasItem lamp && !fact day]".toList, "It is dark.".toList,
    "  [if hasItem lamp && !fact day]".toList, "Barrels.".toList, "[continue]".toList]

/-- The texts of the cellar. -/
def cellarSegments : List Segment :=
  [⟨"The cellar.\n", []⟩,
    ⟨"It is dark.\n", [⟨false, .hasItem, "lamp"⟩, ⟨true, .fact, "day"⟩]⟩,
    ⟨"Barrels.\n", [⟨true, .hasItem, "lamp"⟩, ⟨false, .fact, "day"⟩]⟩]

/-- In the cellar both ways of writing are cut into the same texts. -/
theorem segments_spellOutElse_cellar :
    segments cellarLines = .ok cellarSegments ∧
    spellOutElse none cellarLines = cellarLinesSpelledOut ∧
    segments cellarLinesSpelledOut = .ok cellarSegments ∧
    readDirective "[unless hasItem lamp && !fact day]".toList =
      (readDirective "[if hasItem lamp && !fact day]".toList).map (List.map Condition.negate) := by
  have hcut : segments cellarLines = .ok cellarSegments := toOption_eq_some.1 (by decide +kernel)
  have hspelled : spellOutElse none cellarLines = cellarLinesSpelledOut := by decide +kernel
  obtain ⟨hsame, -⟩ := segments_spellOutElse.1 _ _ hcut
  exact ⟨hcut, hspelled, hspelled ▸ hsame,
    segments_spellOutElse.2 "hasItem lamp && !fact day".toList⟩

end Script

end Skein
