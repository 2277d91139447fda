import Skein.Proofs.FrontMarkup
import Skein.Proofs.Legible

/-!
# Content read line by line

Content is cut into segments, the links are taken out of each segment, and what remains is joined
and trimmed. Read line by line it is something simpler: a walk that keeps the conditions now in
force, and notes them beside every line of prose. `guardedLines` is that walk, and the two ways of
reading agree on everything a player meets.

Everything that is seen of content is an observation of single lines under their conditions: the
links at the front of a line, or the text after them if the conditions hold. Observations may not
look at blank lines, which the cutting into segments drops, nor at a carriage return at the end of
a line, which belongs to the line end. For such observations the two ways of reading are proved to
agree once and for all (`observe_segmentsFrom`), and links and text are two instances.

## Main definitions

* `Script.guardedLines` — the lines of prose, each with the conditions it stands under
* `Script.GuardedLine.links`, `Script.GuardedLine.rest` — the parts of a line of prose
* `Script.Guard.Agrees` — the conditions in force are those that `[else]` would turn around
* `Script.IgnoresBlanks` — observations that do not look at blank lines and line ends

## Main results

* `Script.observe_segmentsFrom` — observations agree on segments and on guarded lines
* `Script.readContent_eq_guardedLines` — so do the links and, for every player, the text
-/

namespace Skein

namespace Script

open Text

/-! ### The walk -/

/-- A line of prose and the conditions it stands under. -/
structure GuardedLine where
  /-- What has to hold for the line to be shown. -/
  guard : List Condition
  /-- The line, with its links. -/
  text : List Char
  deriving DecidableEq

namespace GuardedLine

/-- The links at the front of the line, under its conditions. -/
def links (g : GuardedLine) : List Draft.Link :=
  (frontMarkup g.text).1.map fun markup => markup.link g.guard

/-- What follows the links, without the blanks around it. -/
def rest (g : GuardedLine) : List Char :=
  trim (frontMarkup g.text).2

end GuardedLine

/-- **The lines of prose, each with the conditions it stands under.** The walk keeps the conditions
in force: a directive states new ones, `[else]` turns all of them around and `[continue]` ends
them. -/
def guardedLines (guard : List Condition) : List (List Char) → Except Fault (List GuardedLine)
  | [] => .ok []
  | line :: below =>
    match Control.ofLine line with
    | .prose => do return ⟨guard, line⟩ :: (← guardedLines guard below)
    | .directive => do guardedLines (← readDirective line) below
    | .otherwise => guardedLines (guard.map Condition.negate) below
    | .resume => guardedLines [] below

/-- The conditions that the walk notes are legible if those it starts with are. -/
theorem allLegible_of_guardedLines {guard : List Condition} {content : List (List Char)}
    {reading : List GuardedLine} (hguard : Condition.AllLegible guard)
    (h : guardedLines guard content = .ok reading) :
    ∀ g ∈ reading, Condition.AllLegible g.guard := by
  induction content generalizing guard reading with
  | nil =>
    obtain rfl := Except.ok.inj h
    exact fun g hg => by cases hg
  | cons line below ih =>
    rw [guardedLines.eq_def] at h
    dsimp only at h
    split at h
    · obtain ⟨found, hfound, hout⟩ := bind_eq_ok.1 h
      obtain rfl := Except.ok.inj hout
      intro g hg
      rcases List.mem_cons.1 hg with rfl | hg
      · exact hguard
      · exact ih hguard hfound g hg
    · obtain ⟨conditions, hread, hbelow⟩ := bind_eq_ok.1 h
      exact ih (allLegible_of_readDirective hread) hbelow
    · exact ih (Condition.AllLegible.negate hguard) h
    · exact ih Condition.AllLegible.nil h

/-- The conditions in force are those that an `[else]` would turn around. -/
def Guard.Agrees (guard : Guard) (conditions : List Condition) : Prop :=
  ∀ held, guard = .holding held → conditions = held

theorem Guard.agrees_unguarded : Guard.Agrees .unguarded [] := by
  intro held heq
  cases heq

theorem Turn.agrees {line : List Char} {guard next : Guard} {conditions : List Condition}
    (h : Turn line guard next conditions) : next.Agrees conditions := by
  intro held heq
  cases h with
  | directive _ _ => exact Guard.holding.inj heq
  | otherwise _ => cases heq
  | resume _ _ => cases heq

/-- Below a control line, the walk goes on under the conditions that the line leads to. -/
theorem guardedLines_of_turn {line : List Char} {guard next : Guard}
    {held conditions : List Condition} {below : List (List Char)} (hguard : guard.Agrees held)
    (h : Turn line guard next conditions) :
    guardedLines held (line :: below) = guardedLines conditions below := by
  rw [guardedLines.eq_def]
  dsimp only
  cases h with
  | directive hline hread =>
    rw [hline, hread]
    rfl
  | otherwise hline =>
    rw [hline, hguard _ rfl]
  | resume hline _ =>
    rw [hline]

/-- A line of prose is noted under the conditions in force. -/
theorem guardedLines_of_prose {line : List Char} {held : List Condition} {below : List (List Char)}
    {reading : List GuardedLine} (hline : Control.ofLine line = .prose)
    (h : guardedLines held below = .ok reading) :
    guardedLines held (line :: below) = .ok (⟨held, line⟩ :: reading) := by
  rw [guardedLines.eq_def]
  dsimp only
  rw [hline]
  exact bind_eq_ok.2 ⟨reading, h, rfl⟩

/-! ### Observations -/

/-- An observation of lines under conditions that does not look at blank lines, nor at a carriage
return at the end of a line. -/
structure IgnoresBlanks {β : Type} (f : GuardedLine → List β) : Prop where
  /-- Nothing is observed at a blank line. -/
  blank : ∀ guard line, line.all isBlank = true → f ⟨guard, line⟩ = []
  /-- A carriage return at the end makes no difference. -/
  chomp : ∀ guard line, f ⟨guard, chomp line⟩ = f ⟨guard, line⟩

/-- What is observed at the lines of a segment. -/
def observe {β : Type} (f : GuardedLine → List β) (seg : Segment) : List β :=
  (lines seg.text.toList).flatMap fun line => f ⟨seg.conditions, line⟩

section Observation

variable {β : Type} {f : GuardedLine → List β}

/-- A segment shows the lines that were written into it, and a segment that was dropped had nothing
to show. -/
theorem observe_keep (hf : IgnoresBlanks f) {seg : Segment} {written : List (List Char)}
    (hwritten : ∀ line ∈ written, '\n' ∉ line) (htext : seg.text.toList = endLines written) :
    (keep seg).flatMap (observe f) = written.flatMap fun line => f ⟨seg.conditions, line⟩ := by
  rw [keep, htext]
  split
  · next hblank =>
    rw [List.flatMap_nil, eq_comm, List.flatMap_eq_nil_iff]
    exact fun line hline => hf.blank _ line (all_isBlank_endLines.1 hblank line hline)
  · rw [List.flatMap_cons, List.flatMap_nil, List.append_nil, observe, htext,
      lines_endLines hwritten, List.flatMap_map]
    exact List.flatMap_congr fun line _ => hf.chomp _ line

/-- **Observations agree on segments and on guarded lines.** The lines that the current segment has
collected so far come first. -/
theorem observe_segmentsFrom (hf : IgnoresBlanks f) {guard : Guard} {current : Segment}
    {written content : List (List Char)} {segs : List Segment}
    (hcontent : ∀ line ∈ content, '\n' ∉ line) (hwritten : ∀ line ∈ written, '\n' ∉ line)
    (htext : current.text.toList = endLines written) (hguard : guard.Agrees current.conditions)
    (h : segmentsFrom guard current content = .ok segs) :
    ∃ reading, guardedLines current.conditions content = .ok reading ∧
      segs.flatMap (observe f) =
        written.flatMap (fun line => f ⟨current.conditions, line⟩) ++ reading.flatMap f := by
  induction content generalizing guard current written segs with
  | nil =>
    obtain rfl := Except.ok.inj h
    refine ⟨[], rfl, ?_⟩
    rw [observe_keep hf hwritten htext, List.flatMap_nil, List.append_nil]
  | cons line below ih =>
    obtain ⟨hline, hbelow⟩ := List.forall_mem_cons.1 hcontent
    rcases segmentsFrom_cons_eq_ok.1 h with
      ⟨hprose, h⟩ | ⟨next, conditions, more, hturn, hmore, rfl⟩
    · -- The line moves from what is still to be read to what the segment has collected.
      have htext' : (addLine current line).text.toList = endLines (written ++ [line]) := by
        rw [endLines_concat, ← htext]
        simp [addLine]
      have hwritten' : ∀ l ∈ written ++ [line], '\n' ∉ l := by
        intro l hl
        rcases List.mem_append.1 hl with hl | hl
        · exact hwritten l hl
        · rwa [List.mem_singleton.1 hl]
      obtain ⟨reading, hreading, hobserve⟩ := ih hbelow hwritten' htext' hguard h
      refine ⟨⟨current.conditions, line⟩ :: reading, guardedLines_of_prose hprose hreading, ?_⟩
      rw [hobserve, List.flatMap_append, List.append_assoc, List.flatMap_cons, List.flatMap_cons,
        List.flatMap_nil, List.append_nil]
      rfl
    · -- The segment is ended, and the next one starts without any lines.
      have htext' : (⟨"", conditions⟩ : Segment).text.toList = endLines [] := rfl
      obtain ⟨reading, hreading, hobserve⟩ :=
        ih hbelow (fun l hl => by cases hl) htext' hturn.agrees hmore
      refine ⟨reading, (guardedLines_of_turn hguard hturn).trans hreading, ?_⟩
      rw [List.flatMap_append, observe_keep hf hwritten htext, hobserve, List.flatMap_nil,
        List.nil_append]

end Observation

/-! ### Links -/

theorem ignoresBlanks_links : IgnoresBlanks GuardedLine.links := by
  refine ⟨fun guard line hline => ?_, fun guard line => ?_⟩
  · rw [GuardedLine.links, frontMarkup_of_blank hline]
    rfl
  · obtain ⟨t, ht, heq⟩ := exists_eq_chomp_append line
    obtain ⟨t', -, hfront⟩ := frontMarkup_append_blank ht (s := chomp line)
    rw [GuardedLine.links, GuardedLine.links]
    dsimp only
    conv_rhs => rw [heq, hfront]

/-! ### Text -/

/-- What is seen of a line of prose: the text after its links, unless that is blank. -/
def GuardedLine.shown (g : GuardedLine) : List (List Char) :=
  visible (frontMarkup g.text).2

theorem ignoresBlanks_shown : IgnoresBlanks GuardedLine.shown := by
  refine ⟨fun guard line hline => ?_, fun guard line => ?_⟩
  · rw [GuardedLine.shown, frontMarkup_of_blank hline]
    exact visible_of_blank hline
  · obtain ⟨t, ht, heq⟩ := exists_eq_chomp_append line
    obtain ⟨t', ht', hfront⟩ := frontMarkup_append_blank ht (s := chomp line)
    rw [GuardedLine.shown, GuardedLine.shown]
    refine visible_congr ?_
    dsimp only
    conv_rhs => rw [heq, hfront]
    exact (trim_append_blank ht').symm

/-- An observation that is made only where the conditions hold. -/
theorem IgnoresBlanks.ite {β : Type} {f : GuardedLine → List β} (hf : IgnoresBlanks f)
    (holds : List Condition → Bool) :
    IgnoresBlanks fun g => if holds g.guard then f g else [] := by
  refine ⟨fun guard line hline => ?_, fun guard line => ?_⟩
  · dsimp only
    rw [hf.blank guard line hline, ite_self]
  · dsimp only
    rw [hf.chomp]

theorem observe_ite {β : Type} (f : GuardedLine → List β) (holds : List Condition → Bool)
    (seg : Segment) :
    observe (fun g => if holds g.guard then f g else []) seg =
      if holds seg.conditions then observe f seg else [] := by
  rw [observe]
  split
  · rfl
  · exact List.flatMap_eq_nil_iff.2 fun _ _ => rfl

/-- What is left of a line shows as much as the text after its links. -/
theorem visible_remainder (line : List Char) :
    (remainder line).toList.flatMap visible = visible (frontMarkup line).2 := by
  rw [remainder]
  split
  · next h => exact (visible_of_blank h.2).symm
  · exact List.append_nil _

theorem not_newline_mem_remainder {line left : List Char} (hline : '\n' ∉ line)
    (h : remainder line = some left) : '\n' ∉ left := by
  rw [remainder] at h
  split at h
  · cases h
  · obtain rfl := Option.some.inj h
    exact fun hmem => hline ((frontMarkup_suffix line).subset hmem)

/-- **What is left of a segment** is what was written after the links of its lines. -/
theorem visibleLines_extractLinks (seg : Segment) :
    ((extractLinks seg).1.toList).flatMap (fun text => visibleLines text.text.toList) =
      observe GuardedLine.shown seg := by
  have hleft : ∀ left ∈ (lines seg.text.toList).filterMap remainder, '\n' ∉ left := by
    intro left hmem
    obtain ⟨line, hline, hleft⟩ := List.mem_filterMap.1 hmem
    exact not_newline_mem_remainder (not_newline_mem_of_mem_lines line hline) hleft
  have hseen : visibleLines (trim (joinLines ((lines seg.text.toList).filterMap remainder))) =
      observe GuardedLine.shown seg := by
    rw [visibleLines_trim, visibleLines_joinLines hleft, List.filterMap_eq_flatMap_toList,
      List.flatMap_assoc, observe]
    exact List.flatMap_congr fun line _ => visible_remainder line
  rw [extractLinks, ← hseen]
  dsimp only
  split
  · next hnil => rw [hnil]; rfl
  · rw [Option.toList_some, List.flatMap_cons, List.flatMap_nil, List.append_nil,
      String.toList_append, String.toList_ofList]
    exact visibleLines_append_blank (by decide) _

/-- What is left of a segment ends its last line. -/
theorem exists_eq_append_newline_of_extractLinks {seg left : Segment}
    (h : (extractLinks seg).1 = some left) :
    left.conditions = seg.conditions ∧ ∃ text, left.text.toList = text ++ ['\n'] := by
  obtain ⟨-, rfl⟩ := extractLinks_fst_eq_some_iff.1 h
  exact ⟨rfl, _, String.toList_append⟩

/-- Texts that end their last lines show the same together as one by one. -/
theorem visibleLines_join {texts : List String}
    (h : ∀ text ∈ texts, ∃ s, text.toList = s ++ ['\n']) :
    visibleLines (String.join texts).toList =
      texts.flatMap fun text => visibleLines text.toList := by
  rw [visibleLines, lines_join h, List.flatMap_assoc]
  rfl

/-- The segments that are left and pass show what is observed where the conditions pass. -/
theorem visibleLines_filter_extractLinks (holds : List Condition → Bool) (segs : List Segment) :
    visibleLines (String.join ((((segs.map extractLinks).filterMap Prod.fst).filter
        fun seg => holds seg.conditions).map Segment.text)).toList =
      segs.flatMap (observe fun g => if holds g.guard then g.shown else []) := by
  have hends : ∀ text ∈ (((segs.map extractLinks).filterMap Prod.fst).filter
      fun seg => holds seg.conditions).map Segment.text, ∃ s, text.toList = s ++ ['\n'] := by
    intro text htext
    obtain ⟨left, hleft, rfl⟩ := List.mem_map.1 htext
    obtain ⟨found, hfound, hfst⟩ := List.mem_filterMap.1 (List.mem_filter.1 hleft).1
    obtain ⟨seg, -, rfl⟩ := List.mem_map.1 hfound
    exact (exists_eq_append_newline_of_extractLinks hfst).2
  rw [visibleLines_join hends, List.flatMap_map, List.filterMap_eq_flatMap_toList,
    List.flatMap_map, List.filter_flatMap, List.flatMap_assoc]
  refine List.flatMap_congr fun seg _ => ?_
  have hseen := visibleLines_extractLinks seg
  rw [observe_ite]
  cases hleft : (extractLinks seg).1 with
  | none =>
    rw [hleft, Option.toList_none, List.flatMap_nil] at hseen
    rw [← hseen, ite_self]
    rfl
  | some left =>
    obtain ⟨hconditions, -⟩ := exists_eq_append_newline_of_extractLinks hleft
    rw [hleft] at hseen
    rw [Option.toList_some, List.filter_singleton, hconditions, ← hseen]
    cases holds seg.conditions with
    | false => rfl
    | true => rfl

/-- The text after the links of the lines that pass, as far as something is seen of it. -/
theorem filter_map_rest (holds : List Condition → Bool) (reading : List GuardedLine) :
    ((reading.filter fun g => holds g.guard).map GuardedLine.rest).filter (· ≠ []) =
      reading.flatMap fun g => if holds g.guard then g.shown else [] := by
  induction reading with
  | nil => rfl
  | cons g reading ih =>
    rw [List.flatMap_cons, ← ih]
    cases hg : holds g.guard with
    | false =>
      rw [List.filter_cons, hg]
      rfl
    | true =>
      rw [List.filter_cons, hg, if_pos rfl, if_pos rfl, List.map_cons, ← List.singleton_append,
        List.filter_append]
      rfl

/-! ### Content -/

/-- **Content read segment by segment and line by line.** Reading content succeeds if cutting it
into segments does, and so does the walk. The links are those at the front of the lines of prose, in
order and under the conditions of their lines; and whatever a player owns and knows, the text that
is shown has the same lines, up to blanks around them and blank lines, as the lines of prose whose
conditions hold have after their links. -/
theorem readContent_eq_guardedLines {content : List (List Char)} {cut : List Segment}
    (hcontent : ∀ line ∈ content, '\n' ∉ line) (h : segments content = .ok cut) :
    ∃ segs links reading,
      readContent content = .ok (segs, links) ∧ guardedLines [] content = .ok reading ∧
      links = reading.flatMap GuardedLine.links ∧
      ∀ player : Player, ∃ shown held,
        select (fun seg : Segment => Condition.allHold seg.conditions player) segs = .ok shown ∧
        select (fun g : GuardedLine => Condition.allHold g.guard player) reading = .ok held ∧
        visibleLines (String.join (shown.map Segment.text)).toList =
          (held.map GuardedLine.rest).filter (· ≠ []) := by
  have hempty : (⟨"", []⟩ : Segment).text.toList = endLines [] := rfl
  have hobserve : ∀ {β : Type} {f : GuardedLine → List β}, IgnoresBlanks f →
      ∃ reading, guardedLines [] content = .ok reading ∧
        cut.flatMap (observe f) = reading.flatMap f := fun hf =>
    observe_segmentsFrom hf hcontent (fun l hl => by cases hl) hempty Guard.agrees_unguarded h
  obtain ⟨reading, hreading, hlinks⟩ := hobserve ignoresBlanks_links
  have hread := readContent_eq_ok.2 ⟨cut, h, rfl⟩
  refine ⟨_, _, reading, hread, hreading, ?_, fun player => ?_⟩
  · rw [← hlinks, List.flatMap_map]
    rfl
  · let holds := fun conditions : List Condition =>
      decide ((Condition.allHold conditions player).toOption = some true)
    obtain ⟨reading', hreading', hshown⟩ := hobserve (ignoresBlanks_shown.ite holds)
    obtain rfl : reading = reading' := Except.ok.inj (hreading.symm.trans hreading')
    refine ⟨_, _, select_eq_ok fun seg hseg => ?_, select_eq_ok fun g hg => ?_, ?_⟩
    · exact Condition.exists_allHold_eq_ok ((allLegible_of_readContent hread).1 seg hseg) player
    · exact Condition.exists_allHold_eq_ok
        (allLegible_of_guardedLines Condition.AllLegible.nil hreading g hg) player
    · exact (visibleLines_filter_extractLinks holds cut).trans
        (hshown.trans (filter_map_rest holds reading).symm)

/-- A fair with a tent for those who can pay and are not tired, and a way home for all others. -/
def fair : List (List Char) :=
  ["The fair.".toList,
    "[if hasMoney 3 && !fact tired]".toList, "> [[Tent->Show]] Come in!".toList, "".toList,
    "[else]".toList, "\x7bback\x7d [[Home]]".toList,
    "[continue]".toList, "Night falls.".toList]

/-- The fair is cut into four segments, of which the inner two have opposite conditions. -/
theorem segments_fair : segments fair = .ok [⟨"The fair.\n", []⟩,
    ⟨"> [[Tent->Show]] Come in!\n\n", [⟨true, .hasMoney, "3"⟩, ⟨false, .fact, "tired"⟩]⟩,
    ⟨"\x7bback\x7d [[Home]]\n", [⟨false, .hasMoney, "3"⟩, ⟨true, .fact, "tired"⟩]⟩,
    ⟨"Night falls.\n", []⟩] :=
  toOption_eq_some.1 (by decide +kernel)

/-- The fair is read in either way. -/
theorem readContent_fair :
    (∀ line ∈ fair, '\n' ∉ line) ∧ (∃ cut, segments fair = .ok cut) ∧
    ∃ segs links reading,
      readContent fair = .ok (segs, links) ∧ guardedLines [] fair = .ok reading ∧
      links = reading.flatMap GuardedLine.links ∧
      ∀ player : Player, ∃ shown held,
        select (fun seg : Segment => Condition.allHold seg.conditions player) segs = .ok shown ∧
        select (fun g : GuardedLine => Condition.allHold g.guard player) reading = .ok held ∧
        visibleLines (String.join (shown.map Segment.text)).toList =
          (held.map GuardedLine.rest).filter (· ≠ []) :=
  ⟨by decide, ⟨_, segments_fair⟩, readContent_eq_guardedLines (by decide) segments_fair⟩

end Script

end Skein
