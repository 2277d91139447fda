import Mathlib.Data.List.Infix
import Skein.Proofs.VisibleLines
import Skein.Script.Markup

/-!
# Links at the front of a line

Two facts about the links that are taken off the front of a line. What is left of the line is its
end, so nothing is written anew. And blanks after the line change nothing but what is left, so it
does not matter whether a carriage return still stands there.

Every function on the way has the second property, in one form: on a text with blanks after it, it
gives what it gives on the text, and what it leaves has blanks after it. They need not be the same
blanks, because a group may be followed by nothing else and then they are trimmed away.

## Main results

* `Script.frontMarkup_suffix` — what is left is an end of the line
* `Script.frontMarkup_append_blank` — blanks after a line do not take part in its links
* `Script.frontMarkup_of_blank` — there are no links in blanks
* `Script.extractLinks_fst_eq_some_iff` — what is left of a segment
-/

namespace Skein

namespace Text

/-! ### Cutting and trimming with blanks at the end -/

theorem cutWhere_eq_none {p : Char → Bool} {s : List Char} (h : ∀ c ∈ s, p c = false) :
    cutWhere p s = none := by
  induction s with
  | nil => rfl
  | cons c s ih =>
    rw [cutWhere, h c List.mem_cons_self, ih fun d hd => h d (List.mem_cons_of_mem c hd)]
    rfl

/-- Where no mark stands in what is added, a text is cut as before. -/
theorem cutWhere_append {p : Char → Bool} {t : List Char} (ht : ∀ c ∈ t, p c = false)
    (s : List Char) :
    cutWhere p (s ++ t) = (cutWhere p s).map fun (before, after) => (before, after ++ t) := by
  induction s with
  | nil =>
    rw [List.nil_append, cutWhere_eq_none ht]
    rfl
  | cons c s ih =>
    rw [List.cons_append, cutWhere, cutWhere]
    by_cases hc : p c = true
    · rw [if_pos hc, if_pos hc]
      rfl
    · rw [if_neg hc, if_neg hc, ih, Option.map_map, Option.map_map]
      rfl

theorem cutPair_eq_none {x y : Char} {s : List Char} (h : y ∉ s.tail) : cutPair x y s = none := by
  induction s with
  | nil => rfl
  | cons c s ih =>
    cases s with
    | nil => rfl
    | cons d s =>
      obtain ⟨hd, hs⟩ : y ≠ d ∧ y ∉ s := by simpa using h
      rw [cutPair, if_neg fun hcd => hd hcd.2.symm, ih hs]
      rfl

theorem cutPair_append {x y : Char} {t : List Char} (ht : y ∉ t) (s : List Char) :
    cutPair x y (s ++ t) = (cutPair x y s).map fun (before, after) => (before, after ++ t) := by
  induction s with
  | nil => exact cutPair_eq_none fun h => ht (List.mem_of_mem_tail h)
  | cons c s ih =>
    cases s with
    | nil => exact cutPair_eq_none ht
    | cons d s =>
      rw [List.cons_append, List.cons_append, cutPair, cutPair]
      by_cases hcd : c = x ∧ d = y
      · rw [if_pos hcd, if_pos hcd]
        rfl
      · rw [if_neg hcd, if_neg hcd, ← List.cons_append, ih, Option.map_map, Option.map_map]
        rfl

/-- Blanks after a text stay after it when it is trimmed in front, or vanish with it. -/
theorem trimStart_append_blank {t : List Char} (ht : t.all isBlank = true) (s : List Char) :
    ∃ t', t'.all isBlank = true ∧ trimStart (s ++ t) = trimStart s ++ t' := by
  by_cases hs : (s.dropWhile isBlank).isEmpty = true
  · refine ⟨[], rfl, ?_⟩
    rw [trimStart, trimStart, List.dropWhile_append, if_pos hs, List.isEmpty_iff.1 hs,
      ← List.append_nil t, List.dropWhile_append_of_pos (List.all_eq_true.1 ht)]
    rfl
  · refine ⟨t, ht, ?_⟩
    rw [trimStart, List.dropWhile_append, if_neg hs]
    rfl

theorem not_mem_of_blank {c : Char} {t : List Char} (ht : t.all isBlank = true)
    (hc : isBlank c = false) : c ∉ t := by
  intro hmem
  rw [List.all_eq_true.1 ht c hmem] at hc
  exact Bool.noConfusion hc

/-- What begins a text with blanks after it begins the text, if it is no blank. -/
theorem head?_append_blank {c : Char} {s t : List Char} (ht : t.all isBlank = true)
    (hc : isBlank c = false) (hs : s.head? ≠ some c) : (s ++ t).head? ≠ some c := by
  cases s with
  | nil => exact fun h => not_mem_of_blank ht hc (List.mem_of_mem_head? h)
  | cons d s => exact hs

theorem trimStart_suffix (s : List Char) : trimStart s <:+ s :=
  List.dropWhile_suffix isBlank

theorem suffix_of_cutWhere {p : Char → Bool} {s before after : List Char}
    (h : cutWhere p s = some (before, after)) : after <:+ s := by
  obtain ⟨c, -, rfl, -⟩ := eq_append_of_cutWhere h
  exact ⟨before ++ [c], by rw [List.append_assoc, List.singleton_append]⟩

theorem suffix_of_cutPair {x y : Char} {s before after : List Char}
    (h : cutPair x y s = some (before, after)) : after <:+ s := by
  rw [eq_append_of_cutPair h]
  exact ⟨before ++ [x, y], by rw [List.append_assoc]; rfl⟩

end Text

namespace Script

open Text

/-! ### One equation for each form of a text -/

theorem skipReserved_open (body : List Char) : skipReserved ('[' :: '[' :: body) = some body := by
  rw [skipReserved]

theorem skipReserved_group {group : List Char} (h : group.head? ≠ some '[') :
    skipReserved ('[' :: group) =
      (cutWhere (· == ']') group).bind fun cut => skipReserved (trimStart cut.2) := by
  rw [skipReserved]
  · split <;> simp_all
  · rintro body rfl
    exact h rfl

theorem skipReserved_of_head {s : List Char} (h : s.head? ≠ some '[') : skipReserved s = none := by
  rw [skipReserved]
  · rintro body rfl
    exact h rfl
  · rintro group rfl
    exact h rfl

theorem matchTags_group (group : List Char) :
    matchTags ('\x7b' :: group) =
      (cutWhere (· == '\x7d') group).map fun (tags, after) => (tags, trimStart after) := rfl

theorem matchTags_of_head {s : List Char} (h : s.head? ≠ some '\x7b') :
    matchTags s = some ([], s) := by
  rw [matchTags]
  rintro group rfl
  exact h rfl

theorem skipMarker_of_head {s : List Char} (h : (trimStart s).head? ≠ some '>') :
    skipMarker s = trimStart s := by
  rw [skipMarker]
  split
  · next rest heq => exact absurd (by rw [heq]; rfl) h
  · rfl

theorem skipMarker_marker {s rest : List Char} (h : trimStart s = '>' :: rest) :
    skipMarker s = trimStart rest := by
  rw [skipMarker, h]
  rfl

theorem matchMarkup_eq (s : List Char) :
    matchMarkup s = (matchTags (skipMarker s)).bind fun found =>
      (skipReserved found.2).bind fun inner =>
        (cutPair ']' ']' inner).map fun cut => (⟨found.1, cut.1⟩, cut.2) := by
  rw [matchMarkup]
  cases matchTags (skipMarker s) with
  | none => rfl
  | some found =>
    obtain ⟨tags, rest⟩ := found
    change (skipReserved rest).bind _ = (skipReserved rest).bind _
    cases skipReserved rest with
    | none => rfl
    | some inner =>
      change (cutPair ']' ']' inner).bind _ = (cutPair ']' ']' inner).map _
      cases cutPair ']' ']' inner <;> rfl

theorem frontMarkup_of_none {s : List Char} (h : matchMarkup s = none) :
    frontMarkup s = ([], s) := by
  rw [frontMarkup]
  split <;> simp_all

theorem frontMarkup_of_some {s after : List Char} {markup : Markup}
    (h : matchMarkup s = some (markup, after)) :
    frontMarkup s = (markup :: (frontMarkup after).1, (frontMarkup after).2) := by
  rw [frontMarkup]
  split <;> simp_all

theorem remainder_of_matchMarkup {line : List Char} (h : matchMarkup line = none) :
    remainder line = some line := by
  rw [remainder, frontMarkup_of_none h]
  exact if_neg fun hlinks => hlinks.1 rfl

/-! ### Blanks after a line -/

theorem skipMarker_append_blank {t : List Char} (ht : t.all isBlank = true) (s : List Char) :
    ∃ t', t'.all isBlank = true ∧ skipMarker (s ++ t) = skipMarker s ++ t' := by
  obtain ⟨u, hu, hstart⟩ := trimStart_append_blank ht s
  by_cases h : (trimStart s).head? = some '>'
  · obtain ⟨rest, hrest⟩ := List.head?_eq_some_iff.1 h
    rw [hrest, List.cons_append] at hstart
    rw [skipMarker_marker hrest, skipMarker_marker hstart]
    exact trimStart_append_blank hu rest
  · have happend : (trimStart (s ++ t)).head? ≠ some '>' := by
      rw [hstart]
      exact head?_append_blank hu (by decide) h
    exact ⟨u, hu, by rw [skipMarker_of_head h, skipMarker_of_head happend, hstart]⟩

theorem matchTags_append_blank {t : List Char} (ht : t.all isBlank = true) (s : List Char) :
    ∃ t', t'.all isBlank = true ∧
      matchTags (s ++ t) = (matchTags s).map fun (tags, rest) => (tags, rest ++ t') := by
  by_cases hs : s.head? = some '\x7b'
  · obtain ⟨group, rfl⟩ := List.head?_eq_some_iff.1 hs
    have hcut := cutWhere_append (p := (· == '\x7d')) (t := t)
      (fun c hc => beq_eq_false_iff_ne.2 fun h => not_mem_of_blank ht (by decide) (h ▸ hc)) group
    rw [List.cons_append, matchTags_group, matchTags_group, hcut]
    cases cutWhere (· == '\x7d') group with
    | none => exact ⟨[], rfl, rfl⟩
    | some cut =>
      obtain ⟨t', ht', hstart⟩ := trimStart_append_blank ht cut.2
      exact ⟨t', ht', congrArg (fun rest => some (cut.1, rest)) hstart⟩
  · refine ⟨t, ht, ?_⟩
    rw [matchTags_of_head hs, matchTags_of_head (head?_append_blank ht (by decide) hs)]
    rfl

theorem skipReserved_append_blank {t : List Char} (ht : t.all isBlank = true) (s : List Char) :
    ∃ t', t'.all isBlank = true ∧ skipReserved (s ++ t) = (skipReserved s).map (· ++ t') := by
  induction hn : s.length using Nat.strongRecOn generalizing s t with
  | ind n ih =>
    by_cases hs : s.head? = some '['
    · obtain ⟨group, rfl⟩ := List.head?_eq_some_iff.1 hs
      by_cases hgroup : group.head? = some '['
      · obtain ⟨body, rfl⟩ := List.head?_eq_some_iff.1 hgroup
        refine ⟨t, ht, ?_⟩
        rw [List.cons_append, List.cons_append, skipReserved_open, skipReserved_open]
        rfl
      · have hcut := cutWhere_append (p := (· == ']')) (t := t)
          (fun c hc => beq_eq_false_iff_ne.2 fun h => not_mem_of_blank ht (by decide) (h ▸ hc))
          group
        rw [List.cons_append, skipReserved_group hgroup,
          skipReserved_group (head?_append_blank ht (by decide) hgroup), hcut]
        cases hinner : cutWhere (· == ']') group with
        | none => exact ⟨[], rfl, rfl⟩
        | some cut =>
          -- The rest of the line after a group is shorter, so the loop is followed by induction.
          obtain ⟨u, hu, hstart⟩ := trimStart_append_blank ht cut.2
          have hlt : (trimStart cut.2).length < n := by
            have := length_lt_of_cutWhere hinner
            have := length_trimStart_le cut.2
            rw [List.length_cons] at hn
            omega
          obtain ⟨t', ht', heq⟩ := ih _ hlt hu (trimStart cut.2) rfl
          exact ⟨t', ht', by rw [← hstart] at heq; exact heq⟩
    · refine ⟨[], rfl, ?_⟩
      rw [skipReserved_of_head hs, skipReserved_of_head (head?_append_blank ht (by decide) hs)]
      rfl

theorem matchMarkup_append_blank {t : List Char} (ht : t.all isBlank = true) (s : List Char) :
    ∃ t', t'.all isBlank = true ∧
      matchMarkup (s ++ t) = (matchMarkup s).map fun (markup, after) => (markup, after ++ t') := by
  obtain ⟨u, hu, hmarker⟩ := skipMarker_append_blank ht s
  obtain ⟨v, hv, htags⟩ := matchTags_append_blank hu (skipMarker s)
  rw [matchMarkup_eq, matchMarkup_eq, hmarker, htags]
  cases matchTags (skipMarker s) with
  | none => exact ⟨[], rfl, rfl⟩
  | some found =>
    obtain ⟨w, hw, hreserved⟩ := skipReserved_append_blank hv found.2
    refine ⟨w, hw, ?_⟩
    rw [Option.map_some, Option.bind_some, Option.bind_some, hreserved]
    cases skipReserved found.2 with
    | none => rfl
    | some inner =>
      have hclose : ']' ∉ w := not_mem_of_blank hw (by decide)
      rw [Option.map_some, Option.bind_some, Option.bind_some, cutPair_append hclose]
      cases cutPair ']' ']' inner <;> rfl

/-- **Blanks after a line do not take part in its links**; they follow what is left. -/
theorem frontMarkup_append_blank {t : List Char} (ht : t.all isBlank = true) (s : List Char) :
    ∃ t', t'.all isBlank = true ∧
      frontMarkup (s ++ t) = ((frontMarkup s).1, (frontMarkup s).2 ++ t') := by
  induction hn : s.length using Nat.strongRecOn generalizing s t with
  | ind n ih =>
    obtain ⟨u, hu, hmatch⟩ := matchMarkup_append_blank ht s
    cases hs : matchMarkup s with
    | none =>
      refine ⟨t, ht, ?_⟩
      rw [hs] at hmatch
      rw [frontMarkup_of_none hs, frontMarkup_of_none hmatch]
    | some found =>
      have hlt : found.2.length < n := hn ▸ length_lt_of_matchMarkup hs
      obtain ⟨t', ht', heq⟩ := ih _ hlt hu found.2 rfl
      refine ⟨t', ht', ?_⟩
      rw [hs] at hmatch
      rw [frontMarkup_of_some hs, frontMarkup_of_some hmatch, heq]

/-- There are no links in blanks. -/
theorem frontMarkup_of_blank {s : List Char} (h : s.all isBlank = true) :
    frontMarkup s = ([], s) := by
  obtain ⟨t, -, hmatch⟩ := matchMarkup_append_blank h []
  have hnil : matchMarkup [] = none := by
    rw [matchMarkup_eq, show matchTags (skipMarker []) = some ([], []) from rfl, Option.bind_some,
      skipReserved_of_head (by simp), Option.bind_none]
  rw [hnil] at hmatch
  exact frontMarkup_of_none hmatch

/-! ### What is left of a line -/

theorem skipMarker_suffix (s : List Char) : skipMarker s <:+ s := by
  by_cases h : (trimStart s).head? = some '>'
  · obtain ⟨rest, hrest⟩ := List.head?_eq_some_iff.1 h
    rw [skipMarker_marker hrest]
    calc trimStart rest <:+ rest := trimStart_suffix rest
      _ <:+ trimStart s := hrest ▸ List.suffix_cons '>' rest
      _ <:+ s := trimStart_suffix s
  · rw [skipMarker_of_head h]
    exact trimStart_suffix s

theorem suffix_of_matchTags {s tags rest : List Char} (h : matchTags s = some (tags, rest)) :
    rest <:+ s := by
  by_cases hs : s.head? = some '\x7b'
  · obtain ⟨group, rfl⟩ := List.head?_eq_some_iff.1 hs
    rw [matchTags_group] at h
    obtain ⟨⟨inner, after⟩, hcut, heq⟩ := Option.map_eq_some_iff.1 h
    obtain ⟨rfl, rfl⟩ := Prod.mk.inj heq
    calc trimStart after <:+ after := trimStart_suffix after
      _ <:+ group := suffix_of_cutWhere hcut
      _ <:+ '\x7b' :: group := List.suffix_cons _ group
  · rw [matchTags_of_head hs] at h
    obtain ⟨-, rfl⟩ := Prod.mk.inj (Option.some.inj h)
    exact List.suffix_rfl

theorem suffix_of_skipReserved {s body : List Char} (h : skipReserved s = some body) :
    body <:+ s := by
  fun_induction skipReserved s with
  | case1 =>
    obtain rfl := Option.some.inj h
    exact (List.suffix_cons _ _).trans (List.suffix_cons _ _)
  | case2 => simp at h
  | case3 group _ _ after hcut ih =>
    calc body <:+ trimStart after := ih h
      _ <:+ after := trimStart_suffix after
      _ <:+ group := suffix_of_cutWhere hcut
      _ <:+ '[' :: group := List.suffix_cons _ group
  | case4 => simp at h

theorem suffix_of_matchMarkup {s after : List Char} {markup : Markup}
    (h : matchMarkup s = some (markup, after)) : after <:+ s := by
  simp only [matchMarkup, bind, pure, Option.bind_eq_some_iff] at h
  obtain ⟨⟨tags, rest⟩, htags, inner, hinner, ⟨body, after'⟩, hbody, heq⟩ := h
  obtain ⟨-, rfl⟩ := Prod.mk.inj (Option.some.inj heq)
  calc after' <:+ inner := suffix_of_cutPair hbody
    _ <:+ rest := suffix_of_skipReserved hinner
    _ <:+ skipMarker s := suffix_of_matchTags htags
    _ <:+ s := skipMarker_suffix s

/-- **What is left of a line is its end.** -/
theorem frontMarkup_suffix (s : List Char) : (frontMarkup s).2 <:+ s := by
  fun_induction frontMarkup s with
  | case1 s _ => exact List.suffix_rfl
  | case2 s markup after hmatch _ ih => exact ih.trans (suffix_of_matchMarkup hmatch)

/-! ### What is left of a segment -/

/-- What is left of a segment is what is left of its lines, trimmed as a whole. -/
theorem extractLinks_fst_eq_some_iff {seg left : Segment} :
    (extractLinks seg).1 = some left ↔
      trim (joinLines ((lines seg.text.toList).filterMap remainder)) ≠ [] ∧
        left = ⟨String.ofList (trim (joinLines ((lines seg.text.toList).filterMap remainder))) ++
          "\n", seg.conditions⟩ := by
  rw [extractLinks]
  dsimp only
  split
  · next hnil => exact iff_of_false (fun h => by cases h) fun h => h.1 hnil
  · next hne =>
    constructor
    · exact fun h => ⟨hne, (Option.some.inj h).symm⟩
    · rintro ⟨-, rfl⟩
      rfl

end Script

end Skein
