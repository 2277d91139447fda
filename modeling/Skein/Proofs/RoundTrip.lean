import Skein.Proofs.SpelledContent

/-!
# Scripts are read as they were spelled

Every draft that can be spelled at all is read back from its spelling. A script is a row of blocks,
and a block a row of lines: here the lines of a passage are told apart again, into its first line,
its preamble and its content, and then the blocks of the script.

What can be spelled is said part by part. The conditions keep the marks of the grammar out of the
strings that stand between them, and ask of texts that they are prose and of amounts that they are
integers.

## Main definitions

* `Draft.Passage.IsSpellable`, `Draft.IsSpellable` — what can be spelled
* `Script.bodyLines`, `Script.passageLines` — the lines of a passage
* `Script.spelledBlocks` — the lines of all blocks of a script

## Main results

* `Script.readPassage_bodyLines` — passages are read back
* `Script.blocks_spell` — so are the blocks of a script
* `Script.read_spell` — so are whole drafts
-/

namespace Skein

open Text

/-- A passage that a block can state. -/
@[mk_iff]
structure Draft.Passage.IsSpellable (p : Draft.Passage) : Prop where
  title : IsField p.title.toList
  title_ne : p.title.toList ≠ []
  /-- The title holds no group. -/
  title_bare : ∀ c ∈ p.title.toList, c ∉ brackets
  /-- The block is not one of the two that are no passages. -/
  not_reserved : p.title ≠ "StoryTitle" ∧ p.title ≠ "StoryData"
  header : IsField p.header.toList
  tags : ∀ tag ∈ p.tags, IsTag tag.toList
  segments : ∀ seg ∈ p.segments, seg.IsSpellable
  /-- Segments without conditions have none beside them. -/
  apart : p.segments.IsChain Segment.Apart
  effects : ∀ e ∈ p.effects, e.IsSpellable
  links : ∀ l ∈ p.links, l.IsSpellable

instance (p : Draft.Passage) : Decidable p.IsSpellable :=
  haveI : Decidable (∀ c ∈ p.title.toList, c ∉ brackets) := List.decidableBAll _ _
  decidable_of_iff _ (Draft.Passage.isSpellable_iff p).symm

/-- **A draft that a script can state.** -/
@[mk_iff]
structure Draft.IsSpellable (d : Draft) : Prop where
  title : IsField d.title.toList
  passages : ∀ p ∈ d.passages, p.IsSpellable

instance (d : Draft) : Decidable d.IsSpellable :=
  decidable_of_iff _ (Draft.isSpellable_iff d).symm

namespace Script

/-! ### The lines of a passage -/

/-- The entries of the preamble of a passage. -/
def entries (p : Draft.Passage) : List Entry :=
  p.effects.map .effect ++ if p.header = "" then [] else [.heading p.header]

/-- The lines below the first line of a passage. -/
def bodyLines (p : Draft.Passage) : List (List Char) :=
  (entries p).map spellEntry ++ "--".toList :: contentLines p

/-- The lines of a passage. -/
def passageLines (p : Draft.Passage) : List (List Char) :=
  spellTitleLine p.title p.tags :: bodyLines p

theorem spellLine_append_endLines (line : List Char) (ls : List (List Char)) :
    spellLine line ++ endLines ls = endLines (line :: ls) := by
  rw [endLines_cons, spellLine, List.append_assoc]
  rfl

/-- Parts that are each spelled as lines are spelled as these lines together. -/
theorem flatMap_endLines {α : Type} {l : List α} {spell : α → List Char}
    {toLines : α → List (List Char)} (h : ∀ a ∈ l, spell a = endLines (toLines a)) :
    l.flatMap spell = endLines (l.flatMap toLines) := by
  rw [List.flatMap_congr h, endLines, List.flatMap_assoc]
  rfl

theorem spellSegment_eq {seg : Segment} (h : seg.IsSpellable) :
    spellSegment seg = endLines (segmentLines seg) := by
  rw [spellSegment, segmentLines, ← spellGuarded_endLines, endLines_lines_text h]

theorem spellLink_eq (l : Draft.Link) : spellLink l = endLines (linkLines l) := by
  rw [spellLink, linkLines, ← spellGuarded_endLines]
  refine congrArg (spellGuarded l.conditions) ?_
  rw [endLines_cons, spellMarkup, spellTarget, spellLine]
  simp

theorem spellEntries_eq (p : Draft.Passage) :
    p.effects.flatMap spellEffect ++ spellHeading p = endLines ((entries p).map spellEntry) := by
  have heffects : p.effects.flatMap spellEffect =
      endLines ((p.effects.map Entry.effect).map spellEntry) := by
    rw [List.map_map, List.map_eq_flatMap]
    refine flatMap_endLines fun e _ => ?_
    rw [endLines_cons, spellEffect, spellLine, Function.comp_apply, spellEntry, spellKeyed]
    simp
  have hheading : spellHeading p =
      endLines ((if p.header = "" then [] else [Entry.heading p.header]).map spellEntry) := by
    rw [spellHeading]
    split
    · rfl
    · rw [List.map_singleton, endLines_cons, spellLine, spellEntry, spellKeyed]
      simp
  rw [heffects, hheading, entries, List.map_append, endLines_append]

/-- **A passage is spelled as its lines**, after the mark. -/
theorem spellPassage_eq {p : Draft.Passage} (h : p.IsSpellable) :
    spellPassage p = ':' :: ':' :: ' ' :: endLines (passageLines p) := by
  have hsegments : p.segments.flatMap spellSegment = endLines (p.segments.flatMap segmentLines) :=
    flatMap_endLines fun seg hseg => spellSegment_eq (h.segments seg hseg)
  have hlinks : p.links.flatMap spellLink = endLines (p.links.flatMap linkLines) :=
    flatMap_endLines fun l _ => spellLink_eq l
  have hheader :
      spellHeader p = ':' :: ':' :: ' ' :: spellLine (spellTitleLine p.title p.tags) := by
    rw [spellHeader, spellTitleLine]
    simp [spellLine]
  rw [spellPassage, hsegments, hlinks, hheader, passageLines, bodyLines, contentLines,
    ← spellLine_append_endLines, endLines_append, ← spellEntries_eq, ← spellLine_append_endLines,
    endLines_append]
  simp only [List.cons_append, List.append_assoc]

variable {p : Draft.Passage}

theorem isSpellable_of_mem_entries (h : p.IsSpellable) :
    ∀ entry ∈ entries p, entry.IsSpellable := by
  intro entry hentry
  rcases List.mem_append.1 hentry with hentry | hentry
  · obtain ⟨e, he, rfl⟩ := List.mem_map.1 hentry
    exact h.effects e he
  · split at hentry
    · cases hentry
    · rw [List.mem_singleton.1 hentry]
      exact h.header

theorem splitBody_bodyLines (h : p.IsSpellable) :
    splitBody (bodyLines p) = ((entries p).map spellEntry, contentLines p) := by
  have hentries : ∀ line ∈ (entries p).map spellEntry, (!isSeparator line) = true := by
    intro line hline
    obtain ⟨entry, hentry, rfl⟩ := List.mem_map.1 hline
    rw [isSeparator_spellEntry (isSpellable_of_mem_entries h entry hentry)]
    rfl
  have hdrop : (bodyLines p).dropWhile (!isSeparator ·) = "--".toList :: contentLines p := by
    rw [bodyLines, List.dropWhile_append_of_pos hentries]
    exact List.dropWhile_cons_of_neg (by decide)
  have htake : (bodyLines p).takeWhile (!isSeparator ·) = (entries p).map spellEntry := by
    rw [bodyLines, List.takeWhile_append_of_pos hentries]
    exact (congrArg _ (List.takeWhile_cons_of_neg (by decide))).trans (List.append_nil _)
  rw [splitBody, hdrop, htake]

theorem mapM_read_entries (h : p.IsSpellable) :
    ((((entries p).map spellEntry).map trim).filter (· ≠ [])).mapM Entry.read =
      .ok (entries p) := by
  have hspelled := isSpellable_of_mem_entries h
  have hkeep : ∀ line ∈ (entries p).map (trim ∘ spellEntry), decide (line ≠ []) = true := by
    intro line hline
    obtain ⟨entry, hentry, rfl⟩ := List.mem_map.1 hline
    exact decide_eq_true (List.ne_nil_of_mem (colon_mem_trim_spellEntry (hspelled entry hentry)))
  rw [List.map_map, List.filter_eq_self.2 hkeep]
  exact mapM_map_eq_ok fun entry hentry => readEntry_spellEntry (hspelled entry hentry)

theorem filterMap_effect?_entries (p : Draft.Passage) :
    (entries p).filterMap Entry.effect? = p.effects := by
  have hsome : p.effects.filterMap (Entry.effect? ∘ Entry.effect) = p.effects :=
    List.filterMap_some
  rw [entries, List.filterMap_append, List.filterMap_map, hsome]
  split
  · exact List.append_nil _
  · exact List.append_nil _

theorem getLast?_heading?_entries (p : Draft.Passage) :
    ((entries p).filterMap Entry.heading?).getLast? =
      if p.header = "" then none else some p.header := by
  have hnone : p.effects.filterMap (Entry.heading? ∘ Entry.effect) = [] :=
    List.filterMap_eq_nil_iff.2 fun _ _ => rfl
  rw [entries, List.filterMap_append, List.filterMap_map, hnone]
  split
  · rfl
  · rfl

/-- Preambles are read back. -/
theorem readPreamble_entries (h : p.IsSpellable) :
    Preamble.read ((entries p).map spellEntry) =
      .ok ⟨p.effects, if p.header = "" then none else some p.header⟩ := by
  rw [Preamble.read, mapM_read_entries h, ← filterMap_effect?_entries p,
    ← getLast?_heading?_entries p]
  rfl

/-- **Passages are read back.** -/
theorem readPassage_bodyLines (h : p.IsSpellable) :
    readPassage ⟨p.title, p.tags⟩ (bodyLines p) = .ok p := by
  have hcontent : readContent (contentLines p) = .ok (p.segments, p.links) :=
    readContent_contentLines h.segments h.apart h.links
  have hheader : (if p.header = "" then none else some p.header).getD "" = p.header := by
    split
    · next hempty => exact hempty.symm
    · rfl
  rw [readPassage, splitBody_bodyLines h]
  refine mapError_eq_ok.2 ?_
  rw [readPreamble_entries h, hcontent]
  exact congrArg (fun header => Except.ok { p with header := header }) hheader

/-! ### Blocks -/

theorem isLine_of_mem_contentLines (h : p.IsSpellable) : ∀ line ∈ contentLines p, IsLine line := by
  refine List.forall_mem_append.2 ⟨fun line hline => ?_, fun line hline => ?_⟩
  · obtain ⟨seg, hseg, hline⟩ := List.mem_flatMap.1 hline
    have hs := h.segments seg hseg
    exact isLine_of_mem_guardLines hs.conditions (isLine_of_mem_lines hs) line hline
  · obtain ⟨l, hl, hline⟩ := List.mem_flatMap.1 hline
    have hlink := h.links l hl
    exact isLine_of_mem_guardLines hlink.conditions
      (List.forall_mem_singleton.2 (isLine_spellMarkup hlink)) line hline

theorem isLine_of_mem_passageLines (h : p.IsSpellable) : ∀ line ∈ passageLines p, IsLine line := by
  have htitle := isField_spellTitleLine h.title h.title_ne h.tags
  have hseparator : IsLine "--".toList := by decide
  refine List.forall_mem_cons.2 ⟨htitle.toIsLine, List.forall_mem_append.2 ⟨fun line hline => ?_,
    List.forall_mem_cons.2 ⟨hseparator, isLine_of_mem_contentLines h⟩⟩⟩
  obtain ⟨entry, hentry, rfl⟩ := List.mem_map.1 hline
  exact isLine_spellEntry (isSpellable_of_mem_entries h entry hentry)

/-- The last line of a passage ends visibly, so trimming the block takes no part of it. -/
theorem endVisibly_passageLines (h : p.IsSpellable) : EndVisibly (passageLines p) := by
  have hsegments : EndVisibly (p.segments.flatMap segmentLines) :=
    .flatMap fun seg hseg => endVisibly_guardLines (endVisibly_lines (h.segments seg hseg))
  have hlinks : EndVisibly (p.links.flatMap linkLines) :=
    .flatMap fun l _ => endVisibly_guardLines (endVisibly_spellMarkup l)
  have hshape : passageLines p = spellTitleLine p.title p.tags :: (entries p).map spellEntry ++
      ["--".toList] ++ contentLines p := by
    simp [passageLines, bodyLines]
  rw [hshape]
  exact (endVisibly_concat (c := '-') (by decide) (by decide)).append (hsegments.append hlinks)

theorem lines_trim_passageLines (h : p.IsSpellable) :
    lines (trim (' ' :: endLines (passageLines p))) = passageLines p :=
  lines_trim_endLines (isLine_of_mem_passageLines h)
    (isField_spellTitleLine h.title h.title_ne h.tags) (spellTitleLine_ne_nil h.title_ne p.tags)
    (endVisibly_passageLines h)

/-- **The block of a passage is read back.** -/
theorem readBlock_passageLines (h : p.IsSpellable) :
    Block.read (trim (' ' :: endLines (passageLines p))) =
      .passage ⟨p.title, p.tags⟩ (bodyLines p) := by
  have htitle := isField_spellTitleLine h.title h.title_ne h.tags
  have hstory := spellTitleLine_ne h.not_reserved.1 (by decide) p.tags
  have hdata := spellTitleLine_ne h.not_reserved.2 (by decide) p.tags
  have htags : ∀ tag ∈ p.tags, IsLabel tag.toList := fun tag htag => (h.tags tag htag).isLabel
  rw [Block.read, lines_trim_passageLines h, passageLines, List.headD_cons, List.tail_cons,
    htitle.trimmed, if_neg hstory, if_neg hdata,
    readHeader_spellTitleLine h.title.trimmed h.title_bare htags]

/-! ### Scripts -/

/-- The lines of the block of a title. -/
def titleLines (title : String) : List (List Char) :=
  ["StoryTitle".toList, title.toList]

/-- The lines of all blocks of a script. -/
def spelledBlocks (d : Draft) : List (List (List Char)) :=
  (if d.title = "" then [] else [titleLines d.title]) ++ d.passages.map passageLines

theorem isLine_of_mem_titleLines {title : String} (h : IsField title.toList) :
    ∀ line ∈ titleLines title, IsLine line := by
  have hword : IsLine "StoryTitle".toList := by decide
  exact List.forall_mem_cons.2 ⟨hword, List.forall_mem_singleton.2 h.toIsLine⟩

theorem lines_trim_titleLines {title : String} (h : IsField title.toList) (hne : title ≠ "") :
    lines (trim (' ' :: endLines (titleLines title))) = titleLines title := by
  have hword : IsField "StoryTitle".toList := by decide
  obtain ⟨c, hc, hvisible⟩ := exists_getLast?_of_trim_eq_self h.trimmed (by simpa using hne)
  have hend : EndVisibly (["StoryTitle".toList] ++ [title.toList]) := endVisibly_concat hc hvisible
  exact lines_trim_endLines (isLine_of_mem_titleLines h) hword (by decide) hend

/-- The block of a title is read back. -/
theorem readBlock_titleLines {title : String} (h : IsField title.toList) (hne : title ≠ "") :
    Block.read (trim (' ' :: endLines (titleLines title))) = .storyTitle (some title) := by
  have htitle : title.toList ≠ [] := by simpa using hne
  have hword : trim "StoryTitle".toList = "StoryTitle".toList := by decide
  rw [Block.read, lines_trim_titleLines h hne, titleLines, List.headD_cons, List.tail_cons,
    List.headD_cons, hword, if_pos rfl]
  dsimp only
  rw [h.trimmed, if_neg htitle, String.ofList_toList]

variable {d : Draft}

/-- **A draft is spelled as its blocks.** -/
theorem toList_spell (h : d.IsSpellable) :
    (spell d).toList = (spelledBlocks d).flatMap fun ls => ':' :: ':' :: ' ' :: endLines ls := by
  have htitle : spellTitle d = (if d.title = "" then [] else [titleLines d.title]).flatMap
      fun ls => ':' :: ':' :: ' ' :: endLines ls := by
    rw [spellTitle]
    split
    · rfl
    · rw [List.flatMap_singleton, titleLines, ← spellLine_append_endLines,
        ← spellLine_append_endLines, endLines_nil, List.append_nil]
      rfl
  have hpassages : d.passages.flatMap spellPassage =
      (d.passages.map passageLines).flatMap fun ls => ':' :: ':' :: ' ' :: endLines ls := by
    rw [List.flatMap_map]
    exact List.flatMap_congr fun p hp => spellPassage_eq (h.passages p hp)
  rw [spell, String.toList_ofList, htitle, hpassages, spelledBlocks, List.flatMap_append]

theorem isLine_of_mem_spelledBlocks (h : d.IsSpellable) :
    ∀ ls ∈ spelledBlocks d, ∀ line ∈ ls, IsLine line := by
  refine List.forall_mem_append.2 ⟨fun ls hls => ?_, fun ls hls => ?_⟩
  · split at hls
    · cases hls
    · rw [List.mem_singleton.1 hls]
      exact isLine_of_mem_titleLines h.title
  · obtain ⟨p, hp, rfl⟩ := List.mem_map.1 hls
    exact isLine_of_mem_passageLines (h.passages p hp)

/-- No block is blank, because it has lines. -/
theorem trim_ne_nil_of_mem_spelledBlocks (h : d.IsSpellable) :
    ∀ ls ∈ spelledBlocks d, trim (' ' :: endLines ls) ≠ [] := by
  have hne : ∀ {ls : List (List Char)}, ls ≠ [] → lines (trim (' ' :: endLines ls)) = ls →
      trim (' ' :: endLines ls) ≠ [] := by
    intro ls hls hlines hnil
    rw [hnil] at hlines
    exact hls hlines.symm
  refine List.forall_mem_append.2 ⟨fun ls hls => ?_, fun ls hls => ?_⟩
  · split at hls
    · cases hls
    · next htitle =>
      rw [List.mem_singleton.1 hls]
      exact hne (List.cons_ne_nil _ _) (lines_trim_titleLines h.title htitle)
  · obtain ⟨p, hp, rfl⟩ := List.mem_map.1 hls
    exact hne (List.cons_ne_nil _ _) (lines_trim_passageLines (h.passages p hp))

/-- Each block of a script is read back. -/
theorem map_read_spelledBlocks (h : d.IsSpellable) :
    (spelledBlocks d).map (fun ls => Block.read (trim (' ' :: endLines ls))) =
      (if d.title = "" then [] else [.storyTitle (some d.title)]) ++
        d.passages.map fun p => .passage ⟨p.title, p.tags⟩ (bodyLines p) := by
  have hpassages : (d.passages.map passageLines).map
      (fun ls => Block.read (trim (' ' :: endLines ls))) =
        d.passages.map fun p => .passage ⟨p.title, p.tags⟩ (bodyLines p) := by
    rw [List.map_map]
    refine List.map_congr_left fun p hp => ?_
    rw [Function.comp_apply, readBlock_passageLines (h.passages p hp)]
  rw [spelledBlocks, List.map_append, hpassages]
  split
  · rfl
  · next htitle => rw [List.map_singleton, readBlock_titleLines h.title htitle]

/-- **The blocks of a script are read back.** -/
theorem blocks_spell (h : d.IsSpellable) :
    blocks (unifyLineEnds (spell d).toList) =
      (if d.title = "" then [] else [.storyTitle (some d.title)]) ++
        d.passages.map fun p => .passage ⟨p.title, p.tags⟩ (bodyLines p) := by
  have hlines := isLine_of_mem_spelledBlocks h
  have hreturn : '\r' ∉ (spell d).toList := by
    rw [toList_spell h]
    intro hmem
    obtain ⟨ls, hls, hchar⟩ := List.mem_flatMap.1 hmem
    have hbelow : '\r' ∈ endLines ls := by simpa using hchar
    exact not_return_mem_endLines (hlines ls hls) hbelow
  have hpieces : (splitPair ':' ':' (spell d).toList).map trim =
      [] :: (spelledBlocks d).map fun ls => trim (' ' :: endLines ls) := by
    rw [toList_spell h, splitPair_blocks hlines, List.map_cons, List.map_map]
    rfl
  have hkeep : ∀ piece ∈ (spelledBlocks d).map fun ls => trim (' ' :: endLines ls),
      decide (piece ≠ []) = true := by
    intro piece hpiece
    obtain ⟨ls, hls, rfl⟩ := List.mem_map.1 hpiece
    exact decide_eq_true (trim_ne_nil_of_mem_spelledBlocks h ls hls)
  rw [unifyLineEnds_of_not_mem hreturn, blocks, hpieces, List.filter_cons_of_neg (by decide),
    List.filter_eq_self.2 hkeep, List.map_map]
  exact map_read_spelledBlocks h

theorem assemble_passages {ps : List Draft.Passage} (h : ∀ p ∈ ps, p.IsSpellable) :
    assemble (ps.map fun p => .passage ⟨p.title, p.tags⟩ (bodyLines p)) =
      .ok { title := "", passages := ps } := by
  induction ps with
  | nil => rfl
  | cons p ps ih =>
    obtain ⟨hp, hps⟩ := List.forall_mem_cons.1 h
    exact bind_eq_ok.2 ⟨p, readPassage_bodyLines hp, bind_eq_ok.2 ⟨_, ih hps, rfl⟩⟩

/-- **Every draft that can be spelled is read back from its spelling.** -/
theorem read_spell (h : d.IsSpellable) : read (spell d) = .ok d := by
  have hpassages := assemble_passages h.passages
  rw [read, blocks_spell h]
  split
  · next hempty =>
    rw [List.nil_append, hpassages, ← hempty]
  · rw [List.singleton_append]
    exact bind_eq_ok.2 ⟨_, hpassages, rfl⟩

/-- A shop by the water. Brackets, arrows, a colon or an `&` stand in its texts and values where
they are no marks. -/
def chandlery : Draft where
  title := "The Chandlery: a quay & its ropes"
  passages := [
    { title := "Quay"
      header := "On the quay"
      tags := ["once", "start"]
      segments := [
        ⟨"Fog - and: one lamp.\n\n  [rope] & chain hang ]] here.\n", []⟩,
        ⟨"The rope is dear.\n", [⟨true, .hasMoney, "-5"⟩, ⟨false, .hasItem, "[key] of brass"⟩]⟩,
        ⟨"[open] -> the door.\n", []⟩]
      effects := [⟨.addItem, "rope: 3 fathoms"⟩, ⟨.addMoney, "+40"⟩, ⟨.addFact, ""⟩]
      links := [
        { text := "Buy - or > look", target := "Back [room", tags := ["exit", "back"] },
        { text := "[Leave]", target := "Quay", conditions := [⟨false, .fact, "seen & paid"⟩] }] },
    { title := "Back room" }]

theorem read_spell_chandlery : chandlery.IsSpellable ∧ read (spell chandlery) = .ok chandlery := by
  have hspellable : chandlery.IsSpellable := by decide +kernel
  exact ⟨hspellable, read_spell hspellable⟩

end Script

end Skein
