import Skein.Proofs.GuardedLines
import Skein.Proofs.History
import Skein.Proofs.Locality
import Skein.Proofs.Safety

/-!
# Text without links

Links are taken off the front of lines, again and again until there is none, and what is left of the
lines is joined and trimmed as a whole. None of this can make a new link. Whether a line begins with
a link does not depend on the blanks around it (`matchMarkup_trim_eq_none_iff`), so it is decided by
what is seen of the line, and the visible lines of what is left are the ends of the lines of the
segment. Thus a text is free of links as soon as its visible lines are, and joining, trimming and
putting texts one below the other keep it so.

What is left of a segment is a bare one, and bare segments are left as they are. This needs that the
text can be put together again from its lines, which a carriage return would prevent, because it is
lost where a line ends. A script whose carriage returns all belong to line ends has none in its
segments.

## Main definitions

* `Text.NoStrayReturn` — every carriage return belongs to a line end
* `Script.IsLinkRow` — a text of links with only blanks after them
* `Script.Unlinked` — a text of which no line begins with a link
* `Segment.IsBare` — a segment from which nothing is left to take

## Main results

* `Script.matchMarkup_frontMarkup` — no link is left at the front of a line
* `Script.unlinked_iff_visibleLines` — only what is seen matters
* `Script.extractLinks_eq_none_iff` — when nothing is left of a segment
* `Script.isBare_of_extractLinks`, `Script.extractLinks_of_isBare` — what is left, and that it stays
* `Script.isBare_of_read` — the segments that are read from a script are bare
* `Script.extractLinks_leaves_bare` — links are taken out, and none is left in what is shown
-/

namespace Skein

open Text

namespace Text

/-! ### Carriage returns -/

/-- Every carriage return stands directly before a line feed. -/
def NoStrayReturn (s : List Char) : Prop :=
  ∀ before after, s = before ++ '\r' :: after → after.head? = some '\n'

/-- A carriage return is stray if it is still there when line ends are unified. -/
theorem noStrayReturn_iff {s : List Char} : NoStrayReturn s ↔ '\r' ∉ unifyLineEnds s := by
  -- What follows a first character or a line end is again such a text, so both sides go through it.
  have htail : ∀ {s t : List Char}, NoStrayReturn (s ++ t) → NoStrayReturn t :=
    fun {s t} h before after heq => h (s ++ before) after (by rw [heq, List.append_assoc])
  fun_induction unifyLineEnds s with
  | case1 => exact iff_of_true (fun before after heq => by simp at heq) List.not_mem_nil
  | case2 rest ih =>
    have hrest : NoStrayReturn ('\r' :: '\n' :: rest) ↔ NoStrayReturn rest := by
      refine ⟨htail (s := ['\r', '\n']), fun h before after heq => ?_⟩
      rcases before with _ | ⟨b, _ | ⟨b', before⟩⟩
      · rw [← (List.cons.inj heq).2]
        rfl
      · exact absurd (List.cons.inj (List.cons.inj heq).2).1 (by decide)
      · exact h before after (List.cons.inj (List.cons.inj heq).2).2
    refine hrest.trans (ih.trans ?_)
    simp
  | case3 c rest hc ih =>
    have hrest : NoStrayReturn (c :: rest) ↔ c ≠ '\r' ∧ NoStrayReturn rest := by
      constructor
      · refine fun h => ⟨fun hreturn => ?_, htail (s := [c]) h⟩
        obtain ⟨below, hbelow⟩ := List.head?_eq_some_iff.1 (h [] rest (by rw [hreturn]; rfl))
        exact hc below hreturn hbelow
      · rintro ⟨hreturn, h⟩ before after heq
        cases before with
        | nil => exact absurd (List.cons.inj heq).1 hreturn
        | cons b before => exact h before after (List.cons.inj heq).2
    refine hrest.trans ((and_congr_right fun _ => ih).trans ?_)
    rw [List.mem_cons, not_or, ne_comm]

instance (s : List Char) : Decidable (NoStrayReturn s) :=
  decidable_of_iff _ noStrayReturn_iff.symm

/-- The pieces of a text are made of its characters. -/
theorem mem_of_mem_splitPair {c x y : Char} {s piece : List Char} (hpiece : piece ∈ splitPair x y s)
    (hc : c ∈ piece) : c ∈ s := by
  fun_induction splitPair x y s generalizing piece with
  | case1 => rwa [List.mem_singleton.1 hpiece] at hc
  | case2 d => rwa [List.mem_singleton.1 hpiece] at hc
  | case3 d e rest hpair ih =>
    rcases List.mem_cons.1 hpiece with rfl | hpiece
    · cases hc
    · exact List.mem_cons_of_mem _ (List.mem_cons_of_mem _ (ih hpiece hc))
  | case4 d e rest hpair ih =>
    obtain ⟨first, pieces, hpieces⟩ := List.exists_cons_of_ne_nil (splitPair_ne_nil x y (e :: rest))
    rw [hpieces] at hpiece ih
    rcases List.mem_cons.1 hpiece with rfl | hpiece
    · rcases List.mem_cons.1 hc with rfl | hc
      · exact List.mem_cons_self
      · exact List.mem_cons_of_mem _ (ih List.mem_cons_self hc)
    · exact List.mem_cons_of_mem _ (ih (List.mem_cons_of_mem _ hpiece) hc)

end Text

namespace Script

/-! ### Lines that begin with a link -/

theorem matchMarkup_blank_append {b : List Char} (hb : b.all isBlank = true) (s : List Char) :
    matchMarkup (b ++ s) = matchMarkup s := by
  have hstart : trimStart (b ++ s) = trimStart s :=
    List.dropWhile_append_of_pos (List.all_eq_true.1 hb)
  rw [matchMarkup_eq, matchMarkup_eq, skipMarker, skipMarker, hstart]

theorem matchMarkup_append_blank_eq_none_iff {b : List Char} (hb : b.all isBlank = true)
    {s : List Char} : matchMarkup (s ++ b) = none ↔ matchMarkup s = none := by
  obtain ⟨b', -, hmatch⟩ := matchMarkup_append_blank hb s
  rw [hmatch, Option.map_eq_none_iff]

/-- **Blanks around a line** do not decide whether it begins with a link. -/
theorem matchMarkup_trim_eq_none_iff {s : List Char} :
    matchMarkup (trim s) = none ↔ matchMarkup s = none := by
  obtain ⟨before, after, hbefore, hafter, heq⟩ := exists_eq_blank_append_trim s
  conv_rhs => rw [heq]
  rw [matchMarkup_append_blank_eq_none_iff hafter, matchMarkup_blank_append hbefore]

theorem matchMarkup_of_blank {s : List Char} (h : s.all isBlank = true) : matchMarkup s = none := by
  rw [← matchMarkup_trim_eq_none_iff, trim_eq_nil_iff.2 h]
  decide +kernel

theorem frontMarkup_fst_eq_nil_iff {s : List Char} :
    (frontMarkup s).1 = [] ↔ matchMarkup s = none := by
  constructor
  · intro h
    cases hmatch : matchMarkup s with
    | none => rfl
    | some found =>
      rw [frontMarkup_of_some hmatch] at h
      cases h
  · intro h
    rw [frontMarkup_of_none h]

/-- **No link is left at the front of a line.** -/
theorem matchMarkup_frontMarkup (s : List Char) : matchMarkup (frontMarkup s).2 = none := by
  fun_induction frontMarkup s with
  | case1 s hmatch => exact hmatch
  | case2 s markup after hmatch _ ih => exact ih

/-- A text of links, one at least, with only blanks after them. -/
inductive IsLinkRow : List Char → Prop where
  /-- The last link. -/
  | last {s after : List Char} {markup : Markup} (hmatch : matchMarkup s = some (markup, after))
      (hblank : after.all isBlank = true) : IsLinkRow s
  /-- A link with others after it. -/
  | more {s after : List Char} {markup : Markup} (hmatch : matchMarkup s = some (markup, after))
      (hafter : IsLinkRow after) : IsLinkRow s

theorem isLinkRow_iff {s : List Char} :
    IsLinkRow s ↔ (frontMarkup s).1 ≠ [] ∧ (frontMarkup s).2.all isBlank = true := by
  constructor
  · intro h
    induction h with
    | last hmatch hblank =>
      rw [frontMarkup_of_some hmatch, frontMarkup_of_blank hblank]
      exact ⟨List.cons_ne_nil _ _, hblank⟩
    | more hmatch _ ih =>
      rw [frontMarkup_of_some hmatch]
      exact ⟨List.cons_ne_nil _ _, ih.2⟩
  · rintro ⟨hlinks, hblank⟩
    fun_induction frontMarkup s with
    | case1 s hmatch => exact absurd rfl hlinks
    | case2 s markup after hmatch rest ih =>
      by_cases hafter : (frontMarkup after).1 = []
      · have hnone : frontMarkup after = ([], after) :=
          frontMarkup_of_none (frontMarkup_fst_eq_nil_iff.1 hafter)
        refine .last hmatch ?_
        rwa [show rest = ([], after) from hnone] at hblank
      · exact .more hmatch (ih hafter hblank)

/-- Nothing is left of a row of links. -/
theorem remainder_eq_none_iff {line : List Char} : remainder line = none ↔ IsLinkRow line := by
  rw [isLinkRow_iff, remainder]
  split
  · next h => exact iff_of_true rfl h
  · next h => exact iff_of_false (by simp) h

/-- What is left of a line is blank only if nothing was to be left. -/
theorem blank_of_remainder {line : List Char} :
    (∀ left ∈ remainder line, left.all isBlank = true) ↔
      line.all isBlank = true ∨ IsLinkRow line := by
  cases hleft : remainder line with
  | none => exact iff_of_true (fun left h => by cases h) (.inr (remainder_eq_none_iff.1 hleft))
  | some left =>
    have hrow : ¬IsLinkRow line := fun hrow => by
      rw [remainder_eq_none_iff.2 hrow] at hleft
      cases hleft
    rw [or_iff_left hrow]
    constructor
    · intro hblank
      rw [remainder] at hleft
      split at hleft
      · cases hleft
      · next h =>
        obtain rfl := Option.some.inj hleft
        have hlinks : (frontMarkup line).1 = [] :=
          of_not_not fun hne => h ⟨hne, hblank _ rfl⟩
        have hblank := hblank _ rfl
        rwa [frontMarkup_of_none (frontMarkup_fst_eq_nil_iff.1 hlinks)] at hblank
    · intro hline left' hleft'
      rw [remainder_of_matchMarkup (matchMarkup_of_blank hline)] at hleft
      rwa [← Option.some.inj hleft', ← Option.some.inj hleft]

/-! ### Texts without links -/

/-- No line of the text begins with a link. -/
def Unlinked (s : List Char) : Prop :=
  ∀ line ∈ lines s, matchMarkup line = none

theorem unlinked_visible_iff {line : List Char} :
    (∀ v ∈ visible line, matchMarkup v = none) ↔ matchMarkup line = none := by
  by_cases hblank : line.all isBlank = true
  · rw [visible_of_blank hblank]
    exact iff_of_true (List.forall_mem_nil _) (matchMarkup_of_blank hblank)
  · have hne : trim line ≠ [] := fun hnil => hblank (trim_eq_nil_iff.1 hnil)
    have hvisible : visible line = [trim line] := List.filter_cons_of_pos (decide_eq_true hne)
    rw [hvisible, List.forall_mem_singleton, matchMarkup_trim_eq_none_iff]

/-- **Only what is seen of a text matters.** -/
theorem unlinked_iff_visibleLines {s : List Char} :
    Unlinked s ↔ ∀ v ∈ visibleLines s, matchMarkup v = none := by
  rw [visibleLines, List.forall_mem_flatMap]
  exact forall₂_congr fun line _ => unlinked_visible_iff.symm

/-- Texts without links have none when they stand one below the other. -/
theorem unlinked_join {texts : List String}
    (hended : ∀ text ∈ texts, ∃ s, text.toList = s ++ ['\n'])
    (h : ∀ text ∈ texts, Unlinked text.toList) : Unlinked (String.join texts).toList := by
  intro line hline
  rw [lines_join hended] at hline
  obtain ⟨text, htext, hline⟩ := List.mem_flatMap.1 hline
  exact h text htext line hline

end Script

/-- A segment from which nothing is left to take: its text has no blanks around it but the line feed
that ends it, and no line of it begins with a link. -/
structure Segment.IsBare (seg : Segment) : Prop where
  /-- The text is not empty, trimmed, and ended by a line feed. -/
  ended : ∃ t, t ≠ [] ∧ trim t = t ∧ seg.text.toList = t ++ ['\n']
  noReturn : '\r' ∉ seg.text.toList
  unlinked : Script.Unlinked seg.text.toList

theorem Segment.IsBare.exists_eq_append_newline {seg : Segment} (h : seg.IsBare) :
    ∃ s, seg.text.toList = s ++ ['\n'] := by
  obtain ⟨t, -, -, htext⟩ := h.ended
  exact ⟨t, htext⟩

namespace Script

/-! ### What is left of a segment -/

variable {seg left : Segment}

/-- **When nothing is left of a segment.** -/
theorem extractLinks_eq_none_iff :
    (extractLinks seg).1 = none ↔
      ∀ line ∈ lines seg.text.toList, line.all isBlank = true ∨ IsLinkRow line := by
  have htrim : (extractLinks seg).1 = none ↔
      trim (joinLines ((lines seg.text.toList).filterMap remainder)) = [] := by
    rw [Option.eq_none_iff_forall_ne_some]
    constructor
    · exact fun h => of_not_not fun hne => h _ (extractLinks_fst_eq_some_iff.2 ⟨hne, rfl⟩)
    · exact fun h left hleft => (extractLinks_fst_eq_some_iff.1 hleft).1 h
  rw [htrim, trim_eq_nil_iff, all_isBlank_joinLines]
  simp only [← blank_of_remainder]
  constructor
  · exact fun h line hline left hleft => h left (List.mem_filterMap.2 ⟨line, hline, hleft⟩)
  · intro h left hmem
    obtain ⟨line, hline, hleft⟩ := List.mem_filterMap.1 hmem
    exact h line hline left hleft

/-- No link is left in a segment. -/
theorem unlinked_of_extractLinks (h : (extractLinks seg).1 = some left) :
    Unlinked left.text.toList := by
  have hseen := visibleLines_extractLinks seg
  rw [h, Option.toList_some, List.flatMap_singleton] at hseen
  rw [unlinked_iff_visibleLines, hseen, observe, List.forall_mem_flatMap]
  exact fun line _ => unlinked_visible_iff.2 (matchMarkup_frontMarkup line)

theorem not_return_mem_of_extractLinks (hseg : '\r' ∉ seg.text.toList)
    (h : (extractLinks seg).1 = some left) : '\r' ∉ left.text.toList := by
  have hleft : ∀ line ∈ (lines seg.text.toList).filterMap remainder, ∀ c ∈ line, c ≠ '\r' := by
    rintro _ hmem c hc rfl
    obtain ⟨line, hline, hleft⟩ := List.mem_filterMap.1 hmem
    rw [remainder] at hleft
    split at hleft
    · cases hleft
    · obtain rfl := Option.some.inj hleft
      exact hseg (mem_of_mem_lines hline ((frontMarkup_suffix line).subset hc))
  have hjoin : ∀ c ∈ joinLines ((lines seg.text.toList).filterMap remainder), c ≠ '\r' :=
    forall_mem_intercalate (List.forall_mem_singleton.2 (by decide)) hleft
  obtain ⟨-, rfl⟩ := extractLinks_fst_eq_some_iff.1 h
  rw [String.toList_append, String.toList_ofList]
  refine List.not_mem_append (fun hmem => ?_) (by decide)
  exact hjoin '\r' (mem_of_mem_trim hmem) rfl

/-- **What is left of a segment is bare.** -/
theorem isBare_of_extractLinks (hseg : '\r' ∉ seg.text.toList)
    (h : (extractLinks seg).1 = some left) : left.IsBare := by
  refine ⟨?_, not_return_mem_of_extractLinks hseg h, unlinked_of_extractLinks h⟩
  obtain ⟨hne, rfl⟩ := extractLinks_fst_eq_some_iff.1 h
  exact ⟨_, hne, trim_trim _, by rw [String.toList_append, String.toList_ofList]; rfl⟩

/-- **Nothing is taken from a bare segment.** -/
theorem extractLinks_of_isBare (h : seg.IsBare) : extractLinks seg = (some seg, []) := by
  obtain ⟨t, hne, htrim, htext⟩ := h.ended
  have hreturn : '\r' ∉ t := fun hmem => by
    have hnone := h.noReturn
    rw [htext] at hnone
    exact hnone (List.mem_append_left _ hmem)
  have hleft : (lines seg.text.toList).filterMap remainder = lines seg.text.toList := by
    have hsome : ∀ line ∈ lines seg.text.toList, remainder line = some line := fun line hline =>
      remainder_of_matchMarkup (h.unlinked line hline)
    rw [List.filterMap_congr hsome, List.filterMap_some]
  have hlinks : ((lines seg.text.toList).flatMap fun line =>
      (frontMarkup line).1.map fun markup => markup.link seg.conditions) = [] := by
    refine List.flatMap_eq_nil_iff.2 fun line hline => ?_
    rw [frontMarkup_of_none (h.unlinked line hline)]
    rfl
  have hjoin : trim (joinLines (lines seg.text.toList)) = t := by
    rw [htext, joinLines_lines hreturn, htrim]
  have hsame : String.ofList t ++ "\n" = seg.text :=
    String.toList_inj.1 (by rw [String.toList_append, String.toList_ofList, htext]; rfl)
  rw [extractLinks, hleft, hlinks, hjoin, if_neg hne, hsame]

/-! ### Segments of a script -/

/-- The characters of a segment are line feeds and those of the lines that were written into it. -/
theorem forall_mem_text_of_segmentsFrom {p : Char → Prop} (hnewline : p '\n') {guard : Guard}
    {current : Segment} {content : List (List Char)} {segs : List Segment}
    (hcontent : ∀ line ∈ content, ∀ c ∈ line, p c) (hcurrent : ∀ c ∈ current.text.toList, p c)
    (h : segmentsFrom guard current content = .ok segs) :
    ∀ seg ∈ segs, ∀ c ∈ seg.text.toList, p c := by
  induction content generalizing guard current segs with
  | nil =>
    obtain rfl := Except.ok.inj h
    intro seg hseg
    rwa [eq_of_mem_keep hseg]
  | cons line below ih =>
    obtain ⟨hline, hbelow⟩ := List.forall_mem_cons.1 hcontent
    rcases segmentsFrom_cons_eq_ok.1 h with ⟨-, h⟩ | ⟨next, conditions, more, -, hmore, rfl⟩
    · have hadded : ∀ c ∈ (addLine current line).text.toList, p c := by
        simp only [addLine, String.toList_append, String.toList_ofList]
        exact List.forall_mem_append.2 ⟨List.forall_mem_append.2 ⟨hcurrent, hline⟩,
          List.forall_mem_singleton.2 hnewline⟩
      exact ih hbelow hadded h
    · have hempty : ∀ c ∈ (⟨"", conditions⟩ : Segment).text.toList, p c := fun c hc => by cases hc
      refine List.forall_mem_append.2 ⟨fun seg hseg => ?_, ih hbelow hempty hmore⟩
      rwa [eq_of_mem_keep hseg]

theorem isBare_of_readContent {content : List (List Char)} {segs : List Segment}
    {links : List Draft.Link} (hcontent : ∀ line ∈ content, '\r' ∉ line)
    (h : readContent content = .ok (segs, links)) : ∀ seg ∈ segs, seg.IsBare := by
  obtain ⟨cut, hcut, hfound⟩ := readContent_eq_ok.1 h
  obtain ⟨rfl, rfl⟩ := Prod.mk.inj hfound
  intro left hleft
  obtain ⟨found, hfound, hfst⟩ := List.mem_filterMap.1 hleft
  obtain ⟨seg, hseg, rfl⟩ := List.mem_map.1 hfound
  refine isBare_of_extractLinks (fun hreturn => ?_) hfst
  have hkept : ∀ line ∈ content, ∀ c ∈ line, c ≠ '\r' := fun line hline c hc heq =>
    hcontent line hline (heq ▸ hc)
  exact forall_mem_text_of_segmentsFrom (p := (· ≠ '\r')) (by decide) hkept
    (fun c hc => by cases hc) hcut seg hseg '\r' hreturn rfl

theorem mem_of_mem_splitBody {body : List (List Char)} {line : List Char}
    (h : line ∈ (splitBody body).2) : line ∈ body := by
  rw [splitBody] at h
  split at h
  · exact h
  · next content hcontent =>
    have hdropped : line ∈ body.dropWhile (!isSeparator ·) := by
      rw [hcontent]
      exact List.mem_cons_of_mem _ h
    exact (List.dropWhile_suffix _).subset hdropped

theorem isBare_of_readPassage {header : Header} {body : List (List Char)} {p : Draft.Passage}
    (hbody : ∀ line ∈ body, '\r' ∉ line) (h : readPassage header body = .ok p) :
    ∀ seg ∈ p.segments, seg.IsBare := by
  rw [readPassage] at h
  obtain ⟨preamble, -, hrest⟩ := bind_eq_ok.1 (mapError_eq_ok.1 h)
  obtain ⟨⟨segs, links⟩, hcontent, hout⟩ := bind_eq_ok.1 hrest
  obtain rfl := Except.ok.inj hout
  exact isBare_of_readContent (fun line hline => hbody line (mem_of_mem_splitBody hline)) hcontent

/-- The lines of a passage are made of characters of the script. -/
theorem mem_of_mem_blocks {header : Header} {body : List (List Char)} {script line : List Char}
    {c : Char} (h : .passage header body ∈ blocks script) (hline : line ∈ body) (hc : c ∈ line) :
    c ∈ script := by
  obtain ⟨block, hblock, hread⟩ := List.mem_map.1 h
  obtain ⟨piece, hpiece, rfl⟩ := List.mem_map.1 (List.mem_filter.1 hblock).1
  have hbody : body = (lines (trim piece)).tail := by
    rw [Block.read] at hread
    dsimp only at hread
    split at hread
    · cases hread
    · split at hread
      · cases hread
      · exact (Block.passage.inj hread).2.symm
  rw [hbody] at hline
  exact mem_of_mem_splitPair hpiece
    (mem_of_mem_trim (mem_of_mem_lines (List.mem_of_mem_tail hline) hc))

/-- **The segments that are read from a script are bare**, if no carriage return is stray. -/
theorem isBare_of_read {script : String} {d : Draft} (hreturn : NoStrayReturn script.toList)
    (h : read script = .ok d) : ∀ p ∈ d.passages, ∀ seg ∈ p.segments, seg.IsBare := by
  intro p hp
  have hmem : Except.ok p ∈ (blocks (unifyLineEnds script.toList)).filterMap Block.reading? := by
    rw [filterMap_reading?_of_assemble h]
    exact List.mem_map_of_mem hp
  obtain ⟨block, hblock, hreading⟩ := List.mem_filterMap.1 hmem
  cases block with
  | storyTitle title => cases hreading
  | storyData => cases hreading
  | passage header body =>
    refine isBare_of_readPassage (fun line hline hc => ?_) (Option.some.inj hreading)
    exact noStrayReturn_iff.1 hreturn (mem_of_mem_blocks hblock hline hc)

/-! ### What is shown -/

theorem isBare_of_ofDraft {d : Draft} {s : Story}
    (hd : ∀ p ∈ d.passages, ∀ seg ∈ p.segments, seg.IsBare) (h : Story.ofDraft d = .ok s)
    (p : s.PassageId) : ∀ seg ∈ (s.passage p).segments, seg.IsBare := by
  obtain ⟨q, hq, heq⟩ := Story.exists_passage_of_ofDraft h p
  rw [heq]
  exact hd q hq

/-- Bare segments are shown one below the other, without links. -/
theorem lines_join_of_isBare {segs : List Segment} (h : ∀ seg ∈ segs, seg.IsBare) :
    (lines (String.join (segs.map Segment.text)).toList =
        segs.flatMap fun seg => lines seg.text.toList) ∧
      Unlinked (String.join (segs.map Segment.text)).toList := by
  have hended : ∀ text ∈ segs.map Segment.text, ∃ s, text.toList = s ++ ['\n'] := by
    intro text htext
    obtain ⟨seg, hseg, rfl⟩ := List.mem_map.1 htext
    exact (h seg hseg).exists_eq_append_newline
  refine ⟨?_, unlinked_join hended fun text htext => ?_⟩
  · rw [lines_join hended, List.flatMap_map]
  · obtain ⟨seg, hseg, rfl⟩ := List.mem_map.1 htext
    exact (h seg hseg).unlinked

/-- **Links are taken out, and none is left.** What is left of a segment without carriage returns is
a trimmed text that is ended by a line feed, under the same conditions, and nothing can be taken
from it; nothing is left exactly if every line is blank or a row of links. So the segments that are
read from a script without stray carriage returns stay as they are, and whatever a reader of its
story has done, the text that is shown consists of the lines of some of them, of which none begins
with a link. -/
theorem extractLinks_leaves_bare :
    (∀ seg : Segment, '\r' ∉ seg.text.toList →
      (∀ left, (extractLinks seg).1 = some left →
        (∃ t, t ≠ [] ∧ trim t = t ∧ left.text.toList = t ++ ['\n']) ∧
          left.conditions = seg.conditions ∧ extractLinks left = (some left, [])) ∧
      ((extractLinks seg).1 = none ↔
        ∀ line ∈ lines seg.text.toList, line.all isBlank = true ∨ IsLinkRow line)) ∧
    ∀ script d, NoStrayReturn script.toList → read script = .ok d →
      (∀ p ∈ d.passages, ∀ seg ∈ p.segments,
        (∃ t, t ≠ [] ∧ trim t = t ∧ seg.text.toList = t ++ ['\n']) ∧
          extractLinks seg = (some seg, [])) ∧
      ∀ s, Story.ofDraft d = .ok s → ∀ (play : Play s) (p : s.PassageId),
        ∃ shown : List Segment,
        shown.Sublist (s.passage p).segments ∧
        play.content p = .ok (String.join (shown.map Segment.text)) ∧
        lines (String.join (shown.map Segment.text)).toList =
          (shown.flatMap fun seg => lines seg.text.toList) ∧
        ∀ line ∈ lines (String.join (shown.map Segment.text)).toList, matchMarkup line = none := by
  refine ⟨fun seg hseg => ⟨fun left hleft => ?_, extractLinks_eq_none_iff⟩,
    fun script d hreturn hread => ⟨fun p hp seg hseg => ?_, fun s hs play p => ?_⟩⟩
  · have hbare := isBare_of_extractLinks hseg hleft
    exact ⟨hbare.ended, (conditions_of_extractLinks seg).1 left hleft, extractLinks_of_isBare hbare⟩
  · have hbare := isBare_of_read hreturn hread p hp seg hseg
    exact ⟨hbare.ended, extractLinks_of_isBare hbare⟩
  · have hbare : ∀ seg ∈ (s.passage p).segments, seg.IsBare := isBare_of_ofDraft
      (isBare_of_read hreturn hread) hs p
    obtain ⟨text, htext⟩ := Play.exists_content_eq_ok
      (Story.isLegible_of_ofDraft (isLegible_of_read hread) hs) play p
    obtain ⟨shown, hshown, hjoin⟩ := Play.content_eq_ok_iff.1 htext
    have hsub := sublist_of_select hshown
    obtain ⟨hlines, hunlinked⟩ := lines_join_of_isBare fun seg hseg => hbare seg (hsub.subset hseg)
    exact ⟨shown, hsub, hjoin ▸ htext, hlines, hunlinked⟩

/-- A landing with carriage returns in its line ends and brackets that make no link. -/
def landing : String :=
  ":: Landing\r\n [[Pier]] > [[Boat->Pier]] \r\nThe [[sea]] is dark.\r\n[if fact fog]\r\n" ++
    "[x] [[Pier]] [a light [[or]\r\n:: Pier\r\n[[Landing]]\r\n"

/-- The text of the landing before its links are taken out. -/
def landingText : Segment :=
  ⟨" [[Pier]] > [[Boat->Pier]] \nThe [[sea]] is dark.\n", []⟩

theorem extractLinks_leaves_bare_landing :
    '\r' ∉ landingText.text.toList ∧
      (extractLinks landingText).1 = some ⟨"The [[sea]] is dark.\n", []⟩ ∧
      extractLinks ⟨"The [[sea]] is dark.\n", []⟩ = (some ⟨"The [[sea]] is dark.\n", []⟩, []) ∧
      ∃ d s, NoStrayReturn landing.toList ∧ read landing = .ok d ∧ Story.ofDraft d = .ok s ∧
        ∀ (play : Play s) (p : s.PassageId) (text : String), play.content p = .ok text →
          ∀ line ∈ lines text.toList, matchMarkup line = none := by
  have hcut : '\r' ∉ landingText.text.toList := by decide
  have hleft : (extractLinks landingText).1 = some ⟨"The [[sea]] is dark.\n", []⟩ := by
    decide +kernel
  have hreturn : NoStrayReturn landing.toList := by decide +kernel
  have hopen : ((read landing).toOption.bind fun d => (Story.ofDraft d).toOption).isSome := by
    decide +kernel
  obtain ⟨s, hs⟩ := Option.isSome_iff_exists.1 hopen
  obtain ⟨d, hread, hs⟩ := Option.bind_eq_some_iff.1 hs
  have hread := toOption_eq_some.1 hread
  have hs := toOption_eq_some.1 hs
  have hseg := (extractLinks_leaves_bare.1 landingText hcut).1 _ hleft
  refine ⟨hcut, hleft, hseg.2.2, d, s, hreturn, hread, hs, fun play p text htext => ?_⟩
  obtain ⟨shown, -, hcontent, -, hunlinked⟩ :=
    (extractLinks_leaves_bare.2 landing d hreturn hread).2 s hs play p
  obtain rfl := Except.ok.inj (htext.symm.trans hcontent)
  exact hunlinked

end Script

end Skein
