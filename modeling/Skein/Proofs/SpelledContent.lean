import Mathlib.Data.List.Chain
import Skein.Proofs.Legible
import Skein.Proofs.SpelledLines

/-!
# Content that is read back

The content of a spelled passage is a row of stretches, first the segments and then the links, and
each stretch with conditions stands between a directive and `[continue]`. Stretches without
conditions touch: a segment may be followed by links, and all of them are cut as one segment, from
which the links are then taken out again. So the walk over the content is followed with what has
gathered since the last control line, at most one segment and some links after it.

Two segments without conditions would be cut as one and stay one. This is why they may not be
neighbours, and the only way in which stretches depend on each other.

## Main definitions

* `Segment.IsSpellable` — segments that lines of prose can state
* `Script.contentLines` — the lines of the content of a passage
* `Script.Yields` — the texts and the links that are taken from cut segments

## Main results

* `Script.yields_keep` — what has gathered since a control line is taken apart again
* `Script.readContent_contentLines` — contents are read back
-/

namespace Skein

open Text

/-- A segment that lines of prose can state. -/
@[mk_iff]
structure Segment.IsSpellable (seg : Segment) : Prop where
  /-- The text is not blank. -/
  visible : trim seg.text.toList ≠ []
  /-- The text has no blanks around it but the line feed that ends it. -/
  ended : seg.text.toList = trim seg.text.toList ++ ['\n']
  plain : IsPlain seg.text.toList
  prose : ∀ line ∈ lines seg.text.toList, Script.Control.ofLine line = .prose
  /-- No line of the text begins with a link. -/
  unlinked : ∀ line ∈ lines seg.text.toList, Script.matchMarkup line = none
  conditions : Condition.AllSpellable seg.conditions

instance (seg : Segment) : Decidable seg.IsSpellable :=
  decidable_of_iff _ (Segment.isSpellable_iff seg).symm

/-- Neighbours that are not cut as one segment. -/
def Segment.Apart (seg next : Segment) : Prop :=
  seg.conditions ≠ [] ∨ next.conditions ≠ []

instance : DecidableRel Segment.Apart := fun seg next =>
  inferInstanceAs (Decidable (seg.conditions ≠ [] ∨ next.conditions ≠ []))

namespace Script

/-! ### The lines of content -/

/-- Lines under the guard of conditions, if there are any. -/
def guardLines (conditions : List Condition) (ls : List (List Char)) : List (List Char) :=
  if conditions = [] then ls else spellDirective conditions :: (ls ++ ["[continue]".toList])

theorem spellGuarded_endLines (conditions : List Condition) (ls : List (List Char)) :
    spellGuarded conditions (endLines ls) = endLines (guardLines conditions ls) := by
  rw [spellGuarded, guardLines]
  split
  · rfl
  · rw [endLines_cons, endLines_concat]
    simp [spellLine]

/-- The lines of a segment. -/
def segmentLines (seg : Segment) : List (List Char) :=
  guardLines seg.conditions (lines seg.text.toList)

/-- The lines of a link. -/
def linkLines (l : Draft.Link) : List (List Char) :=
  guardLines l.conditions [spellMarkup l]

/-- The lines of the content of a passage. -/
def contentLines (p : Draft.Passage) : List (List Char) :=
  p.segments.flatMap segmentLines ++ p.links.flatMap linkLines

/-- The text of a segment consists of its lines. -/
theorem endLines_lines_text {seg : Segment} (h : seg.IsSpellable) :
    endLines (lines seg.text.toList) = seg.text.toList := by
  have hreturn : '\r' ∉ trim seg.text.toList := fun hc => h.plain.noReturn (mem_of_mem_trim hc)
  rw [h.ended, endLines_lines hreturn]

theorem isLine_of_mem_lines {seg : Segment} (h : seg.IsSpellable) :
    ∀ line ∈ lines seg.text.toList, IsLine line := by
  intro line hline
  have hmem := infix_endLines_of_mem hline
  rw [endLines_lines_text h] at hmem
  have hplain : IsPlain line :=
    ⟨fun hc => h.plain.noReturn (hmem.subset hc), fun hpair => h.plain.noMark (hpair.trans hmem)⟩
  exact ⟨hplain, not_newline_mem_of_mem_lines line hline⟩

theorem isLine_of_mem_guardLines {conditions : List Condition} {ls : List (List Char)}
    (hconditions : Condition.AllSpellable conditions) (hls : ∀ line ∈ ls, IsLine line) :
    ∀ line ∈ guardLines conditions ls, IsLine line := by
  rw [guardLines]
  split
  · exact hls
  · have hresume : IsLine "[continue]".toList := by decide
    refine List.forall_mem_cons.2 ⟨isLine_spellDirective hconditions, ?_⟩
    exact List.forall_mem_append.2 ⟨hls, List.forall_mem_singleton.2 hresume⟩

theorem endVisibly_guardLines {conditions : List Condition} {ls : List (List Char)}
    (h : EndVisibly ls) : EndVisibly (guardLines conditions ls) := by
  rw [guardLines]
  split
  · exact h
  · rw [← List.cons_append]
    exact endVisibly_concat (c := ']') (by decide) (by decide)

/-- The text of a segment ends visibly, because it is trimmed. -/
theorem endVisibly_lines {seg : Segment} (h : seg.IsSpellable) :
    EndVisibly (lines seg.text.toList) := by
  intro last hlast
  obtain ⟨before, heq⟩ := List.getLast?_eq_some_iff.1 hlast
  have htext : trim seg.text.toList = endLines before ++ last := by
    have hended : trim seg.text.toList ++ ['\n'] = endLines before ++ last ++ ['\n'] := by
      rw [← h.ended, ← endLines_lines_text h, heq, endLines_concat]
    exact List.append_cancel_right hended
  obtain ⟨c, hc, hvisible⟩ := exists_getLast?_of_trim_eq_self (trim_trim _) h.visible
  rw [htext, List.getLast?_append] at hc
  cases hend : last.getLast? with
  | some d =>
    rw [hend] at hc
    obtain rfl := Option.some.inj hc
    exact ⟨d, rfl, hvisible⟩
  | none =>
    rw [hend] at hc
    obtain rfl := eq_newline_of_mem_getLast?_endLines hc
    exact absurd hvisible (by decide)

theorem endVisibly_spellMarkup (l : Draft.Link) : EndVisibly [spellMarkup l] :=
  endVisibly_singleton (getLast?_spellMarkup l) (by decide)

/-! ### What is taken from cut segments -/

/-- The texts and the links that are taken from cut segments. -/
def Yields (cut texts : List Segment) (links : List Draft.Link) : Prop :=
  (cut.map extractLinks).filterMap Prod.fst = texts ∧
    (cut.map extractLinks).flatMap Prod.snd = links

theorem Yields.nil : Yields [] [] [] :=
  ⟨rfl, rfl⟩

theorem Yields.append {cut more texts others : List Segment} {links rest : List Draft.Link}
    (h : Yields cut texts links) (hmore : Yields more others rest) :
    Yields (cut ++ more) (texts ++ others) (links ++ rest) := by
  rw [Yields, List.map_append, List.filterMap_append, List.flatMap_append, h.1, h.2, hmore.1,
    hmore.2]
  exact ⟨rfl, rfl⟩

/-- What has gathered since a control line: at most one segment, and links after it. -/
def gathered (seg? : Option Segment) (links : List Draft.Link) : List (List Char) :=
  seg?.toList.flatMap (fun seg => lines seg.text.toList) ++ links.map spellMarkup

variable {conditions : List Condition}

theorem extractLinks_endLines {ls : List (List Char)} (h : ∀ line ∈ ls, IsLine line) :
    extractLinks ⟨String.ofList (endLines ls), conditions⟩ =
      (if trim (joinLines (ls.filterMap remainder)) = [] then none
        else some ⟨String.ofList (trim (joinLines (ls.filterMap remainder))) ++ "\n", conditions⟩,
      ls.flatMap fun line => (frontMarkup line).1.map fun markup => markup.link conditions) := by
  rw [extractLinks]
  dsimp only
  rw [String.toList_ofList, lines_endLines_of_isLine h]

theorem remainder_spellMarkup {l : Draft.Link} (h : l.IsSpellable) :
    remainder (spellMarkup l) = none := by
  rw [remainder, frontMarkup_spellMarkup h]
  exact if_pos ⟨List.cons_ne_nil _ _, rfl⟩

section Gathered

variable {seg? : Option Segment} {links : List Draft.Link}

theorem isLine_of_mem_gathered (hseg : ∀ seg ∈ seg?, seg.IsSpellable)
    (hlinks : ∀ l ∈ links, l.IsSpellable) : ∀ line ∈ gathered seg? links, IsLine line := by
  intro line hline
  rcases List.mem_append.1 hline with hline | hline
  · obtain ⟨seg, hmem, hline⟩ := List.mem_flatMap.1 hline
    exact isLine_of_mem_lines (hseg seg (Option.mem_toList.1 hmem)) line hline
  · obtain ⟨l, hl, rfl⟩ := List.mem_map.1 hline
    exact isLine_spellMarkup (hlinks l hl)

/-- Without the links, the lines of the segment remain. -/
theorem filterMap_remainder_gathered (hseg : ∀ seg ∈ seg?, seg.IsSpellable)
    (hlinks : ∀ l ∈ links, l.IsSpellable) :
    (gathered seg? links).filterMap remainder =
      seg?.toList.flatMap fun seg => lines seg.text.toList := by
  have htext : ∀ line ∈ seg?.toList.flatMap (fun seg => lines seg.text.toList),
      remainder line = some line := by
    intro line hline
    obtain ⟨seg, hmem, hline⟩ := List.mem_flatMap.1 hline
    exact remainder_of_matchMarkup ((hseg seg (Option.mem_toList.1 hmem)).unlinked line hline)
  have hmarkup : (links.map spellMarkup).filterMap remainder = [] := by
    refine List.filterMap_eq_nil_iff.2 fun line hline => ?_
    obtain ⟨l, hl, rfl⟩ := List.mem_map.1 hline
    exact remainder_spellMarkup (hlinks l hl)
  rw [gathered, List.filterMap_append, hmarkup, List.append_nil, List.filterMap_congr htext,
    List.filterMap_some]

/-- The links are those that were written. -/
theorem flatMap_link_gathered (hseg : ∀ seg ∈ seg?, seg.IsSpellable)
    (hlinks : ∀ l ∈ links, l.IsSpellable ∧ l.conditions = conditions) :
    ((gathered seg? links).flatMap fun line =>
      (frontMarkup line).1.map fun markup => markup.link conditions) = links := by
  have htext : ((seg?.toList.flatMap fun seg => lines seg.text.toList).flatMap fun line =>
      (frontMarkup line).1.map fun markup => markup.link conditions) = [] := by
    refine List.flatMap_eq_nil_iff.2 fun line hline => ?_
    obtain ⟨seg, hmem, hline⟩ := List.mem_flatMap.1 hline
    rw [frontMarkup_of_none ((hseg seg (Option.mem_toList.1 hmem)).unlinked line hline)]
    rfl
  rw [gathered, List.flatMap_append, htext, List.nil_append, List.flatMap_map]
  induction links with
  | nil => rfl
  | cons l links ih =>
    obtain ⟨⟨hl, rfl⟩, hlinks⟩ := List.forall_mem_cons.1 hlinks
    rw [List.flatMap_cons, ih hlinks, frontMarkup_spellMarkup hl, List.map_singleton,
      link_spellTarget hl]
    rfl

/-- The text of a segment, as it is put together again from its lines. -/
theorem text_of_trim_joinLines {seg : Segment} (h : seg.IsSpellable) :
    trim (joinLines (lines seg.text.toList)) ≠ [] ∧
      String.ofList (trim (joinLines (lines seg.text.toList))) ++ "\n" = seg.text := by
  have hreturn : '\r' ∉ trim seg.text.toList := fun hc => h.plain.noReturn (mem_of_mem_trim hc)
  have hjoin : joinLines (lines seg.text.toList) = trim seg.text.toList := by
    conv_lhs => rw [h.ended]
    exact joinLines_lines hreturn
  rw [hjoin, trim_trim]
  refine ⟨h.visible, String.toList_inj.1 ?_⟩
  rw [String.toList_append, String.toList_ofList, h.ended, trim_append_blank (by decide), trim_trim]
  rfl

theorem extractLinks_gathered (hseg : ∀ seg ∈ seg?, seg.IsSpellable ∧ seg.conditions = conditions)
    (hlinks : ∀ l ∈ links, l.IsSpellable ∧ l.conditions = conditions) :
    extractLinks ⟨String.ofList (endLines (gathered seg? links)), conditions⟩ = (seg?, links) := by
  have hspelled : ∀ seg ∈ seg?, seg.IsSpellable := fun seg h => (hseg seg h).1
  have hwritten : ∀ l ∈ links, l.IsSpellable := fun l h => (hlinks l h).1
  rw [extractLinks_endLines (isLine_of_mem_gathered hspelled hwritten),
    filterMap_remainder_gathered hspelled hwritten, flatMap_link_gathered hspelled hlinks]
  cases seg? with
  | none => rfl
  | some seg =>
    obtain ⟨hs, rfl⟩ := hseg seg rfl
    obtain ⟨hne, htext⟩ := text_of_trim_joinLines hs
    rw [Option.toList_some, List.flatMap_singleton, if_neg hne, htext]

/-- If nothing visible has gathered, then nothing has. -/
theorem eq_none_and_eq_nil_of_blank (hseg : ∀ seg ∈ seg?, seg.IsSpellable)
    (hblank : (endLines (gathered seg? links)).all isBlank = true) : seg? = none ∧ links = [] := by
  have hlines := all_isBlank_endLines.1 hblank
  constructor
  · cases seg? with
    | none => rfl
    | some seg =>
      have hall : (endLines (lines seg.text.toList)).all isBlank = true :=
        all_isBlank_endLines.2 fun line hline => hlines line (by simp [gathered, hline])
      rw [endLines_lines_text (hseg seg rfl)] at hall
      exact absurd (trim_eq_nil_iff.2 hall) (hseg seg rfl).visible
  · cases links with
    | nil => rfl
    | cons l links =>
      have hmarkup := hlines (spellMarkup l) (by simp [gathered])
      exact absurd (List.all_eq_true.1 hmarkup '>' List.mem_cons_self) (by decide)

/-- **What has gathered since a control line is taken apart again.** -/
theorem yields_keep (hseg : ∀ seg ∈ seg?, seg.IsSpellable ∧ seg.conditions = conditions)
    (hlinks : ∀ l ∈ links, l.IsSpellable ∧ l.conditions = conditions) :
    Yields (keep ⟨String.ofList (endLines (gathered seg? links)), conditions⟩)
      seg?.toList links := by
  have hextract := extractLinks_gathered hseg hlinks
  rw [keep]
  split
  · next hblank =>
    rw [String.toList_ofList] at hblank
    obtain ⟨rfl, rfl⟩ := eq_none_and_eq_nil_of_blank (fun seg h => (hseg seg h).1) hblank
    exact .nil
  · rw [Yields, List.map_singleton, hextract]
    cases seg? with
    | none => exact ⟨rfl, List.flatMap_singleton _ _⟩
    | some seg => exact ⟨rfl, List.flatMap_singleton _ _⟩

end Gathered

theorem yields_link {l : Draft.Link} (h : l.IsSpellable) :
    Yields (keep ⟨String.ofList (endLines [spellMarkup l]), l.conditions⟩) [] [l] := by
  have hgathered : gathered none [l] = [spellMarkup l] := rfl
  have hseg : ∀ seg ∈ (none : Option Segment), seg.IsSpellable ∧ seg.conditions = l.conditions :=
    fun seg hseg => by cases hseg
  rw [← hgathered]
  exact yields_keep hseg (List.forall_mem_singleton.2 ⟨h, rfl⟩)

theorem yields_segment {seg : Segment} (h : seg.IsSpellable) :
    Yields (keep ⟨String.ofList (endLines (lines seg.text.toList)), seg.conditions⟩) [seg] [] := by
  have hgathered : gathered (some seg) [] = lines seg.text.toList := by simp [gathered]
  have hseg : ∀ other ∈ some seg, other.IsSpellable ∧ other.conditions = seg.conditions := by
    intro other hother
    obtain rfl := Option.some.inj hother
    exact ⟨h, rfl⟩
  rw [← hgathered]
  exact yields_keep hseg (List.forall_mem_nil _)

/-! ### The walk -/

theorem addLine_endLines (written : List (List Char)) (line : List Char) :
    addLine ⟨String.ofList (endLines written), conditions⟩ line =
      ⟨String.ofList (endLines (written ++ [line])), conditions⟩ := by
  have htext : String.ofList (endLines written) ++ String.ofList line ++ "\n" =
      String.ofList (endLines (written ++ [line])) := by
    refine String.toList_inj.1 ?_
    rw [String.toList_append, String.toList_append, endLines_concat]
    simp only [String.toList_ofList]
    rfl
  rw [addLine, htext]

/-- Lines of prose are gathered. -/
theorem segmentsFrom_prose {guard : Guard} {ls : List (List Char)}
    (h : ∀ line ∈ ls, Control.ofLine line = .prose) (written below : List (List Char)) :
    segmentsFrom guard ⟨String.ofList (endLines written), conditions⟩ (ls ++ below) =
      segmentsFrom guard ⟨String.ofList (endLines (written ++ ls)), conditions⟩ below := by
  induction ls generalizing written with
  | nil => rw [List.nil_append, List.append_nil]
  | cons line ls ih =>
    obtain ⟨hline, hls⟩ := List.forall_mem_cons.1 h
    rw [List.cons_append, segmentsFrom.eq_def]
    dsimp only
    rw [hline]
    dsimp only
    rw [addLine_endLines, ih hls, List.append_assoc, List.singleton_append]

/-- A stretch with conditions ends what has gathered before it, and is cut by itself. -/
theorem segmentsFrom_guardLines (hconditions : Condition.AllSpellable conditions)
    (hne : conditions ≠ []) {ls : List (List Char)}
    (hls : ∀ line ∈ ls, Control.ofLine line = .prose) {current : Segment}
    {below : List (List Char)} {more : List Segment}
    (hmore : segmentsFrom .unguarded ⟨"", []⟩ below = .ok more) :
    segmentsFrom .unguarded current (guardLines conditions ls ++ below) =
      .ok (keep current ++ (keep ⟨String.ofList (endLines ls), conditions⟩ ++ more)) := by
  have hresume : segmentsFrom (.holding conditions) ⟨String.ofList (endLines ls), conditions⟩
      ("[continue]".toList :: below) =
        .ok (keep ⟨String.ofList (endLines ls), conditions⟩ ++ more) :=
    segmentsFrom_cons_eq_ok.2
      (.inr ⟨_, _, more, .resume (by decide) (by simp), hmore, rfl⟩)
  have hdirective := readDirective_spellDirective hconditions hne
  rw [guardLines, if_neg hne, List.cons_append]
  refine segmentsFrom_cons_eq_ok.2 (.inr ⟨_, _, _,
    .directive (ofLine_spellDirective conditions) hdirective, ?_, rfl⟩)
  rw [List.append_assoc, List.singleton_append]
  exact (segmentsFrom_prose hls [] _).trans hresume

/-- **Links are read back**, after what has gathered before them. -/
theorem exists_yields_links {seg? : Option Segment} {before links : List Draft.Link}
    (hseg : ∀ seg ∈ seg?, seg.IsSpellable ∧ seg.conditions = [])
    (hbefore : ∀ l ∈ before, l.IsSpellable ∧ l.conditions = [])
    (hlinks : ∀ l ∈ links, l.IsSpellable) :
    ∃ cut, segmentsFrom .unguarded ⟨String.ofList (endLines (gathered seg? before)), []⟩
        (links.flatMap linkLines) = .ok cut ∧ Yields cut seg?.toList (before ++ links) := by
  induction links generalizing seg? before with
  | nil =>
    rw [List.append_nil]
    exact ⟨_, rfl, yields_keep hseg hbefore⟩
  | cons l links ih =>
    obtain ⟨hl, hrest⟩ := List.forall_mem_cons.1 hlinks
    have hprose : ∀ line ∈ [spellMarkup l], Control.ofLine line = .prose :=
      List.forall_mem_singleton.2 (ofLine_spellMarkup l)
    rw [List.flatMap_cons, linkLines]
    by_cases hnil : l.conditions = []
    · have hmore : ∀ m ∈ before ++ [l], m.IsSpellable ∧ m.conditions = [] :=
        List.forall_mem_append.2 ⟨hbefore, List.forall_mem_singleton.2 ⟨hl, hnil⟩⟩
      have hgathered : gathered seg? before ++ [spellMarkup l] = gathered seg? (before ++ [l]) := by
        rw [gathered, gathered, List.map_append, List.append_assoc]
        rfl
      obtain ⟨cut, hcut, hyields⟩ := ih hseg hmore hrest
      rw [List.append_assoc] at hyields
      refine ⟨cut, ?_, hyields⟩
      rw [guardLines, if_pos hnil, segmentsFrom_prose hprose, hgathered, hcut]
    · obtain ⟨cut, hcut, hyields⟩ :=
        @ih none [] (fun seg h => by cases h) (List.forall_mem_nil _) hrest
      refine ⟨_, segmentsFrom_guardLines hl.conditions hnil hprose hcut, ?_⟩
      have hstretches := (yields_keep hseg hbefore).append ((yields_link hl).append hyields)
      rwa [List.nil_append, Option.toList_none, List.append_nil] at hstretches

/-- **Segments and links are read back.** Where a segment without conditions has gathered, the next
segment has some. -/
theorem exists_yields {seg? : Option Segment} {segs : List Segment} {links : List Draft.Link}
    (hseg : ∀ seg ∈ seg?, seg.IsSpellable ∧ seg.conditions = [])
    (hsegs : ∀ seg ∈ segs, seg.IsSpellable)
    (hapart : (seg?.toList ++ segs).IsChain Segment.Apart)
    (hlinks : ∀ l ∈ links, l.IsSpellable) :
    ∃ cut, segmentsFrom .unguarded ⟨String.ofList (endLines (gathered seg? [])), []⟩
        (segs.flatMap segmentLines ++ links.flatMap linkLines) = .ok cut ∧
      Yields cut (seg?.toList ++ segs) links := by
  induction segs generalizing seg? with
  | nil =>
    rw [List.append_nil]
    exact exists_yields_links hseg (List.forall_mem_nil _) hlinks
  | cons seg segs ih =>
    obtain ⟨hs, hrest⟩ := List.forall_mem_cons.1 hsegs
    rw [List.flatMap_cons, segmentLines, List.append_assoc]
    by_cases hnil : seg.conditions = []
    · cases seg? with
      | some other =>
        rcases (List.isChain_cons_cons.1 hapart).1 with hother | hs
        · exact absurd (hseg other rfl).2 hother
        · exact absurd hnil hs
      | none =>
        have hone : ∀ other ∈ some seg, other.IsSpellable ∧ other.conditions = [] := by
          intro other hother
          obtain rfl := Option.some.inj hother
          exact ⟨hs, hnil⟩
        have hgathered : gathered none [] ++ lines seg.text.toList = gathered (some seg) [] := by
          simp [gathered]
        obtain ⟨cut, hcut, hyields⟩ := ih hone hrest hapart
        refine ⟨cut, ?_, hyields⟩
        rw [guardLines, if_pos hnil, segmentsFrom_prose hs.prose, hgathered, hcut]
    · have htail : segs.IsChain Segment.Apart := hapart.right_of_append.tail
      obtain ⟨cut, hcut, hyields⟩ := @ih none (fun seg h => by cases h) hrest htail
      refine ⟨_, segmentsFrom_guardLines hs.conditions hnil hs.prose hcut, ?_⟩
      have hstretches := (yields_keep hseg (List.forall_mem_nil _)).append
        ((yields_segment hs).append hyields)
      rwa [List.nil_append, List.nil_append] at hstretches

/-- **Contents are read back.** -/
theorem readContent_contentLines {segs : List Segment} {links : List Draft.Link}
    (hsegs : ∀ seg ∈ segs, seg.IsSpellable)
    (hapart : segs.IsChain Segment.Apart)
    (hlinks : ∀ l ∈ links, l.IsSpellable) :
    readContent (segs.flatMap segmentLines ++ links.flatMap linkLines) = .ok (segs, links) := by
  obtain ⟨cut, hcut, htexts, hfound⟩ :=
    @exists_yields none segs links (fun seg h => by cases h) hsegs hapart hlinks
  refine readContent_eq_ok.2 ⟨cut, hcut, ?_⟩
  rw [htexts, hfound]
  rfl

end Script

end Skein
