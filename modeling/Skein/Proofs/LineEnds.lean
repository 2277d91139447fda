import Skein.Proofs.BareText

/-!
# Line ends do not matter

A script may be written with a carriage return before some of its line feeds and without one before
others. The draft that it describes is the same, faults included, because line ends are unified
before anything else is read.

Its blocks are the same as well, although nothing is unified when a script is divided. A carriage
return before a line feed is in nobody's way: it is no part of a mark; where blanks are cut off it
goes together with its line feed; and where a text is divided into lines it belongs to the line end.
So the relation between the two texts is carried through the stages of `Script.blocks`, from the
script to its pieces (`Text.AddsReturns.splitPair`), from these to the trimmed pieces
(`Text.AddsReturns.trim`), and it ends at their lines, which are equal (`Text.AddsReturns.lines`).

## Main definitions

* `Text.AddsReturns` — one text is another one with carriage returns before some of its line feeds

## Main results

* `Text.addsReturns_iff` — these are the texts whose unified line ends give the other one
* `Text.AddsReturns.lines` — the lines are the same
* `Script.blocks_of_addsReturns` — the blocks are the same
* `Script.read_lineEnds` — the draft is the same, or the fault
-/

namespace Skein

namespace Text

/-! ### Carriage returns at line ends -/

/-- The second text is the first one with a carriage return put before some of its line feeds. -/
inductive AddsReturns : List Char → List Char → Prop where
  /-- Nothing is added to the empty text. -/
  | nil : AddsReturns [] []
  /-- A character stays as it is. -/
  | keep (c : Char) {s t : List Char} : AddsReturns s t → AddsReturns (c :: s) (c :: t)
  /-- A line feed is given a carriage return. -/
  | add {s t : List Char} : AddsReturns s t → AddsReturns ('\n' :: s) ('\r' :: '\n' :: t)

namespace AddsReturns

variable {s t : List Char}

theorem unifyLineEnds_eq (h : AddsReturns s t) (hs : '\r' ∉ s) : unifyLineEnds t = s := by
  induction h with
  | nil => rfl
  | keep c h ih =>
    have hc : '\r' ≠ c := List.ne_of_not_mem_cons hs
    rw [unifyLineEnds, ih (List.not_mem_of_not_mem_cons hs)]
    exact fun _ hreturn => absurd hreturn.symm hc
  | add h ih => rw [unifyLineEnds, ih (List.not_mem_of_not_mem_cons hs)]

theorem eq_nil_iff (h : AddsReturns s t) : s = [] ↔ t = [] := by
  cases h with
  | nil => rfl
  | keep c h => exact iff_of_false (List.cons_ne_nil _ _) (List.cons_ne_nil _ _)
  | add h => exact iff_of_false (List.cons_ne_nil _ _) (List.cons_ne_nil _ _)

/-- A text begins with the same character, unless its line feed was given a carriage return. -/
theorem head?_eq (h : AddsReturns s t) : t.head? = s.head? ∨ t.head? = some '\r' := by
  cases h with
  | nil => exact .inl rfl
  | keep c h => exact .inl rfl
  | add h => exact .inr rfl

/-- A character that is no line feed stays where it is. -/
theorem exists_eq_cons {c : Char} (h : AddsReturns (c :: s) t) (hc : c ≠ '\n') :
    ∃ u, t = c :: u ∧ AddsReturns s u := by
  cases h with
  | keep c h => exact ⟨_, rfl, h⟩
  | add h => exact absurd rfl hc

/-- **The lines are the same.** -/
theorem lines (h : AddsReturns s t) (hs : '\r' ∉ s) : Text.lines t = Text.lines s := by
  induction h with
  | nil => rfl
  | keep c h ih =>
    have hc : '\r' ≠ c := List.ne_of_not_mem_cons hs
    have hrest := ih (List.not_mem_of_not_mem_cons hs)
    by_cases hfeed : c = '\n'
    · subst hfeed
      exact congrArg ([] :: ·) hrest
    · rw [lines_cons hfeed fun h => absurd h.symm hc, lines_cons hfeed fun h => absurd h.symm hc,
        hrest]
  | add h ih => exact congrArg ([] :: ·) (ih (List.not_mem_of_not_mem_cons hs))

end AddsReturns

/-- **Unified line ends** give the text without carriage returns to which some were added. -/
theorem addsReturns_iff {s t : List Char} (hs : '\r' ∉ s) :
    AddsReturns s t ↔ unifyLineEnds t = s := by
  refine ⟨fun h => h.unifyLineEnds_eq hs, ?_⟩
  rintro rfl
  fun_induction unifyLineEnds t with
  | case1 => exact .nil
  | case2 r ih => exact .add (ih (List.not_mem_of_not_mem_cons hs))
  | case3 c r hc ih => exact .keep c (ih (List.not_mem_of_not_mem_cons hs))

/-! ### Trimming -/

namespace AddsReturns

variable {s t : List Char}

theorem trimStart (h : AddsReturns s t) : AddsReturns (Text.trimStart s) (Text.trimStart t) := by
  induction h with
  | nil => exact .nil
  | keep c h ih =>
    by_cases hc : isBlank c = true
    · rw [Text.trimStart, Text.trimStart, List.dropWhile_cons_of_pos hc,
        List.dropWhile_cons_of_pos hc]
      exact ih
    · rw [Text.trimStart, Text.trimStart, List.dropWhile_cons_of_neg hc,
        List.dropWhile_cons_of_neg hc]
      exact .keep c h
  | add h ih => exact ih

theorem trimEnd (h : AddsReturns s t) : AddsReturns (Text.trimEnd s) (Text.trimEnd t) := by
  rw [Text.trimEnd, Text.trimEnd]
  induction h with
  | nil => exact .nil
  | keep c h ih =>
    simp only [dropEndWhile_cons, ih.eq_nil_iff]
    split
    · exact .nil
    · exact .keep c ih
  | @add s t h ih =>
    have hreturn : isBlank '\r' = true := by decide
    have hfeed : isBlank '\n' = true := by decide
    simp only [dropEndWhile_cons, ih.eq_nil_iff, hreturn, hfeed, and_true]
    by_cases ht : dropEndWhile isBlank t = []
    · simp only [if_pos ht]
      exact .nil
    · simp only [if_neg ht, if_neg (List.cons_ne_nil _ _)]
      exact .add ih

/-- **Trimming cuts off a carriage return together with its line feed.** -/
theorem trim (h : AddsReturns s t) : AddsReturns (Text.trim s) (Text.trim t) :=
  h.trimStart.trimEnd

end AddsReturns

/-! ### Dividing -/

theorem splitPair_cons {x y c : Char} {s : List Char} (h : ¬(c = x ∧ s.head? = some y)) :
    splitPair x y (c :: s) = (splitPair x y s).modifyHead (c :: ·) := by
  cases s with
  | nil => rfl
  | cons d s =>
    rw [splitPair, if_neg]
    rintro ⟨hc, rfl⟩
    exact h ⟨hc, rfl⟩

theorem forall₂_modifyHead {α β : Type} {R : α → β → Prop} {f : α → α} {g : β → β}
    (hfg : ∀ a b, R a b → R (f a) (g b)) {l : List α} {m : List β} (h : List.Forall₂ R l m) :
    List.Forall₂ R (l.modifyHead f) (m.modifyHead g) := by
  cases h with
  | nil => exact .nil
  | cons h hrest => exact .cons (hfg _ _ h) hrest

/-- **No carriage return is in the way of a mark**, so the pieces correspond to each other. -/
theorem AddsReturns.splitPair {s t : List Char} (h : AddsReturns s t) :
    List.Forall₂ AddsReturns (Text.splitPair ':' ':' s) (Text.splitPair ':' ':' t) := by
  fun_induction Text.splitPair ':' ':' s generalizing t with
  | case1 =>
    cases h
    exact .cons .nil .nil
  | case2 c =>
    cases h with
    | keep c h =>
      cases h
      exact .cons (.keep c .nil) .nil
    | add h =>
      cases h
      exact .cons (.add .nil) .nil
  | case3 c d r hpair ih =>
    obtain ⟨rfl, rfl⟩ := hpair
    obtain ⟨u, rfl, hu⟩ := h.exists_eq_cons (by decide)
    obtain ⟨v, rfl, hv⟩ := hu.exists_eq_cons (by decide)
    rw [Text.splitPair, if_pos ⟨rfl, rfl⟩]
    exact .cons .nil (ih hv)
  | case4 c d r hpair ih =>
    -- A mark is not made by what is added, because the added character is no colon.
    have hmark : ∀ {u}, AddsReturns (d :: r) u → ¬(c = ':' ∧ u.head? = some ':') := by
      rintro u hu ⟨hc, hcolon⟩
      rcases hu.head?_eq with hhead | hhead
      · rw [hcolon] at hhead
        exact hpair ⟨hc, (Option.some.inj hhead).symm⟩
      · rw [hcolon] at hhead
        exact absurd (Option.some.inj hhead) (by decide)
    cases h with
    | keep c h =>
      rw [splitPair_cons (hmark h)]
      exact forall₂_modifyHead (fun _ _ => .keep c) (ih h)
    | add h =>
      rw [splitPair_cons (c := '\r') fun h => absurd h.1 (by decide), splitPair_cons (hmark h),
        List.modifyHead_modifyHead]
      exact forall₂_modifyHead (fun _ _ => .add) (ih h)

end Text

namespace Script

open Text

/-! ### Reading -/

/-- What a block says is decided by its lines. -/
theorem Block.read_congr {s t : List Char} (h : lines s = lines t) :
    Block.read s = Block.read t := by
  rw [Block.read, h, Block.read]

/-- **The blocks are the same**: the pieces of the texts correspond to each other, before and after
they are trimmed, and so do the ones that are not blank; they say the same because their lines are
the same. -/
theorem blocks_of_addsReturns {s t : List Char} (h : AddsReturns s t) (hs : '\r' ∉ s) :
    blocks t = blocks s := by
  have hpieces : List.Forall₂ (fun a b => '\r' ∉ a ∧ AddsReturns a b) (splitPair ':' ':' s)
      (splitPair ':' ':' t) :=
    (List.forall₂_and_left _ _).2 ⟨fun _ ha hmem => hs (mem_of_mem_splitPair ha hmem), h.splitPair⟩
  have htrimmed : List.Forall₂ (fun a b => '\r' ∉ a ∧ AddsReturns a b)
      ((splitPair ':' ':' s).map trim) ((splitPair ':' ':' t).map trim) :=
    List.rel_map (fun _ _ hab => ⟨mt mem_of_mem_trim hab.1, hab.2.trim⟩) hpieces
  have hkept := List.rel_filter (p := (· ≠ [])) (q := (· ≠ []))
    (fun a b hab => by simpa using not_congr hab.2.eq_nil_iff) htrimmed
  have hread : List.Forall₂ Eq (blocks s) (blocks t) :=
    List.rel_map (fun _ _ hab => Block.read_congr (hab.2.lines hab.1).symm) hkept
  rw [List.forall₂_eq_eq_eq] at hread
  exact hread.symm

/-- **Line ends do not matter.** A script without carriage returns, and the same script with some
before any of its line feeds, describe the same draft or fail with the same fault; and they are
already divided into the same blocks, before any line ends are unified. -/
theorem read_lineEnds {script written : String} (hreturn : '\r' ∉ script.toList)
    (h : AddsReturns script.toList written.toList) :
    read written = read script ∧ blocks written.toList = blocks script.toList := by
  refine ⟨?_, blocks_of_addsReturns h hreturn⟩
  rw [read, read, (addsReturns_iff hreturn).1 h, unifyLineEnds_of_not_mem hreturn]

/-! ### A mole -/

/-- A mole in the harbour, and an effect that there is not. -/
def moleScript : String :=
  ":: StoryTitle\nThe Mole\n\n:: Mole [once] \n--\n[if fact Tide]\nLow water.\n\n" ++
    ":: Beacon\nsing: low\n--\n"

/-- The same with carriage returns at the ends of some lines, a blank one and the last among
them. -/
def moleWritten : String :=
  ":: StoryTitle\r\nThe Mole\n\r\n:: Mole [once] \r\n--\r\n[if fact Tide]\nLow water.\r\n\n" ++
    ":: Beacon\r\nsing: low\n--\r\n"

/-- The mole is divided into the same three blocks, of which the last one has the same fault. -/
theorem read_lineEnds_mole :
    read moleWritten = .error ⟨"Beacon", .unknownEffect "sing"⟩ ∧
    blocks moleWritten.toList = [.storyTitle (some "The Mole"),
      .passage ⟨"Mole", ["once"]⟩ ["--".toList, "[if fact Tide]".toList, "Low water.".toList],
      .passage ⟨"Beacon", []⟩ ["sing: low".toList, "--".toList]] := by
  have hreturn : '\r' ∉ moleScript.toList := by decide +kernel
  have hadds : AddsReturns moleScript.toList moleWritten.toList :=
    (addsReturns_iff hreturn).2 (by decide +kernel)
  obtain ⟨hread, hblocks⟩ := read_lineEnds hreturn hadds
  rw [hread, hblocks]
  exact ⟨by decide +kernel, by decide +kernel⟩

end Script

end Skein
