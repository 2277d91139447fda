import Skein.Condition.Holding
import Skein.Proofs.FrontMarkup
import Skein.Proofs.Segments
import Skein.Script.Reading
import Skein.Story.Linking

/-!
# Scripts are legible

Conditions and effects keep their values as text, and a value that should be an amount of money is
read again whenever it is needed. That a story never meets an amount it cannot read is decided
long before, when the script is read: directives check thresholds and preambles check amounts, and
whatever happens to a condition afterwards — it is negated below an `[else]`, it is handed on to
links, it becomes part of a graph — leaves its kind and its value alone.

Legibility is the property that is handed on. It is defined for conditions and effects, carried
through every stage of reading and linking, and used only for the last theorem here: conditions of
a legible story can be judged for any player.

## Main definitions

* `Condition.IsLegible`, `Effect.IsLegible` — an amount of money in the value can be read
* `Draft.IsLegible`, `Story.IsLegible` — the same for everything that a story is made of

## Main results

* `Script.allLegible_of_readDirective`, `Script.Entry.isLegible_of_read` — where values are checked
* `Script.Turn.isLegible`, `Script.allLegible_of_segments` — control lines hand legibility on
* `Script.isLegible_of_read` — what is read from a script is legible
* `Story.isLegible_of_ofDraft` — the story of a legible draft is legible
* `Condition.exists_allHold_eq_ok` — legible conditions can be judged
-/

namespace Skein

open Text

/-! ### Legible values -/

/-- An amount of money can be read from the value, if there has to be one. -/
def Condition.IsLegible (c : Condition) : Prop :=
  c.kind = .hasMoney → ∃ threshold, readInt? (trim c.value.toList) = some threshold

/-- An amount of money can be read from the value, if there has to be one. -/
def Effect.IsLegible (e : Effect) : Prop :=
  e.kind.takesAmount = true → ∃ amount, readInt? (trim e.value.toList) = some amount

/-- Every condition of a list is legible. -/
def Condition.AllLegible (conditions : List Condition) : Prop :=
  ∀ c ∈ conditions, c.IsLegible

namespace Condition

/-- Legibility does not depend on polarity. -/
theorem IsLegible.negate {c : Condition} (h : c.IsLegible) : c.negate.IsLegible := h

theorem AllLegible.nil : AllLegible [] := by
  simp [AllLegible]

theorem AllLegible.negate {conditions : List Condition} (h : AllLegible conditions) :
    AllLegible (conditions.map Condition.negate) := by
  intro c hc
  obtain ⟨d, hd, rfl⟩ := List.mem_map.1 hc
  exact (h d hd).negate

/-- The question of a legible condition has an answer. -/
theorem IsLegible.exists_test_eq_ok {c : Condition} (h : c.IsLegible) (p : Player) :
    ∃ b, c.test p = .ok b := by
  have hanswer : ∃ b, c.answer p = .ok b := by
    rw [answer]
    cases hkind : c.kind with
    | hasItem => exact ⟨_, rfl⟩
    | fact => exact ⟨_, rfl⟩
    | hasMoney =>
      obtain ⟨threshold, hread⟩ := h hkind
      rw [hread]
      exact ⟨_, rfl⟩
  obtain ⟨b, hb⟩ := hanswer
  exact ⟨_, by rw [test, hb]; rfl⟩

/-- **Legible conditions can be judged**, whatever the player owns and knows. -/
theorem exists_allHold_eq_ok {conditions : List Condition} (h : AllLegible conditions)
    (p : Player) : ∃ b, allHold conditions p = .ok b := by
  induction conditions with
  | nil => exact ⟨true, rfl⟩
  | cons c rest ih =>
    obtain ⟨b, hb⟩ := (h c List.mem_cons_self).exists_test_eq_ok p
    cases b with
    | false => exact ⟨false, by rw [allHold, hb]; rfl⟩
    | true =>
      obtain ⟨b, hrest⟩ := ih fun d hd => h d (List.mem_cons_of_mem c hd)
      exact ⟨b, by rw [allHold, hb]; exact hrest⟩

end Condition

namespace Script

/-! ### Where values are checked -/

/-- All that is checked before a clause states a condition. -/
theorem of_readClause_eq_ok {positive : Bool} {clause : List Char} {c : Condition}
    (h : readClause positive clause = .ok c) :
    ∃ word rest, cutWhere isBlank clause = some (word, rest) ∧ trim rest ≠ [] ∧
      c.value = String.ofList (trim rest) ∧
      (c.kind = .hasMoney → ∃ threshold, readInt? (trim rest) = some threshold) := by
  rw [readClause] at h
  split at h
  · cases h
  · next word rest hcut =>
    dsimp only at h
    split at h
    · cases h
    · next hvalue =>
      split at h
      · cases h
      · next kind _ =>
        split at h
        · cases h
        · next hreadable =>
          obtain rfl := Except.ok.inj h
          refine ⟨word, rest, hcut, hvalue, rfl, fun hkind => ?_⟩
          rw [show kind = .hasMoney from hkind] at hreadable
          exact Option.ne_none_iff_exists'.1 (by simpa using hreadable)

theorem isLegible_of_readClause {positive : Bool} {clause : List Char} {c : Condition}
    (h : readClause positive clause = .ok c) : c.IsLegible := by
  obtain ⟨word, rest, -, -, hvalue, hthreshold⟩ := of_readClause_eq_ok h
  intro hkind
  rw [hvalue, String.toList_ofList, trim_trim]
  exact hthreshold hkind

theorem of_readDirective_eq_ok {line : List Char} {conditions : List Condition}
    (h : readDirective line = .ok conditions) :
    ∃ (positive : Bool) (clauses : List (List Char)),
      clauses.mapM (readClause positive) = .ok conditions := by
  rw [readDirective] at h
  dsimp only at h
  split at h
  · obtain ⟨positive, -, hclauses⟩ := bind_eq_ok.1 h
    exact ⟨positive, _, hclauses⟩
  · split at h
    · obtain ⟨positive, -, hclauses⟩ := bind_eq_ok.1 h
      exact ⟨positive, _, hclauses⟩
    · cases h

/-- **Directives state legible conditions only.** -/
theorem allLegible_of_readDirective {line : List Char} {conditions : List Condition}
    (h : readDirective line = .ok conditions) : Condition.AllLegible conditions := by
  obtain ⟨positive, clauses, hclauses⟩ := of_readDirective_eq_ok h
  intro c hc
  obtain ⟨clause, -, hread⟩ := exists_mem_of_mapM_eq_ok hclauses c hc
  exact isLegible_of_readClause hread

/-- **Preambles hold legible effects only.** -/
theorem Entry.isLegible_of_read {line : List Char} {e : Effect}
    (h : Entry.read line = .ok (.effect e)) : e.IsLegible := by
  rw [Entry.read] at h
  split at h
  · cases h
  · next before after _ =>
    dsimp only at h
    split at h
    · cases h
    · split at h
      · cases h
      · next kind _ =>
        split at h
        · cases h
        · next hreadable =>
          obtain rfl := Entry.effect.inj (Except.ok.inj h)
          intro hkind
          rw [show kind.takesAmount = true from hkind] at hreadable
          rw [String.toList_ofList, trim_trim]
          exact Option.ne_none_iff_exists'.1 (by simpa using hreadable)

theorem isLegible_of_mem_effects {lines : List (List Char)} {preamble : Preamble}
    (h : Preamble.read lines = .ok preamble) : ∀ e ∈ preamble.effects, e.IsLegible := by
  rw [Preamble.read] at h
  obtain ⟨entries, hentries, hout⟩ := bind_eq_ok.1 h
  obtain rfl := Except.ok.inj hout
  intro e he
  obtain ⟨entry, hentry, heffect⟩ := List.mem_filterMap.1 he
  obtain ⟨line, -, hread⟩ := exists_mem_of_mapM_eq_ok hentries entry hentry
  cases entry with
  | heading text => cases heffect
  | effect f =>
    obtain rfl := Option.some.inj heffect
    exact Entry.isLegible_of_read hread

/-! ### What control lines hand on -/

/-- Conditions that an `[else]` would turn around are legible. -/
def Guard.IsLegible : Guard → Prop
  | .holding conditions => Condition.AllLegible conditions
  | .unguarded | .inverted => True

/-- A control line leads to legible conditions. -/
theorem Turn.isLegible {line : List Char} {guard next : Guard} {conditions : List Condition}
    (h : Turn line guard next conditions) (hguard : guard.IsLegible) :
    next.IsLegible ∧ Condition.AllLegible conditions := by
  cases h with
  | directive _ hread =>
    have hlegible := allLegible_of_readDirective hread
    exact ⟨hlegible, hlegible⟩
  | otherwise _ =>
    have hheld : Condition.AllLegible _ := hguard
    exact ⟨trivial, hheld.negate⟩
  | resume _ _ => exact ⟨trivial, Condition.AllLegible.nil⟩

theorem allLegible_of_segmentsFrom {guard : Guard} {current : Segment} {lines : List (List Char)}
    {segs : List Segment} (hguard : guard.IsLegible)
    (hcurrent : Condition.AllLegible current.conditions)
    (h : segmentsFrom guard current lines = .ok segs) :
    ∀ seg ∈ segs, Condition.AllLegible seg.conditions := by
  induction lines generalizing guard current segs with
  | nil =>
    obtain rfl := Except.ok.inj h
    intro seg hseg
    rwa [eq_of_mem_keep hseg]
  | cons line below ih =>
    rcases segmentsFrom_cons_eq_ok.1 h with ⟨-, h⟩ | ⟨next, conditions, more, hturn, hmore, rfl⟩
    · have hadded : Condition.AllLegible (addLine current line).conditions := hcurrent
      exact ih hguard hadded h
    · obtain ⟨hnext, hconditions⟩ := hturn.isLegible hguard
      intro seg hseg
      rcases List.mem_append.1 hseg with hkeep | hseg
      · rwa [eq_of_mem_keep hkeep]
      · exact ih hnext hconditions hmore seg hseg

theorem allLegible_of_segments {lines : List (List Char)} {segs : List Segment}
    (h : segments lines = .ok segs) : ∀ seg ∈ segs, Condition.AllLegible seg.conditions :=
  have hguard : Guard.IsLegible .unguarded := trivial
  allLegible_of_segmentsFrom hguard Condition.AllLegible.nil h

/-! ### Whole drafts -/

end Script

/-- Everything in a passage of a draft is legible. -/
structure Draft.Passage.IsLegible (p : Draft.Passage) : Prop where
  /-- The conditions of its text. -/
  segments : ∀ seg ∈ p.segments, Condition.AllLegible seg.conditions
  /-- What happens on a visit. -/
  effects : ∀ e ∈ p.effects, e.IsLegible
  /-- The conditions of its links. -/
  links : ∀ link ∈ p.links, Condition.AllLegible link.conditions

/-- Everything in a draft is legible. -/
def Draft.IsLegible (d : Draft) : Prop :=
  ∀ p ∈ d.passages, p.IsLegible

namespace Script

/-- Links and what is left of a segment have the conditions of the segment. -/
theorem conditions_of_extractLinks (seg : Segment) :
    (∀ text ∈ (extractLinks seg).1, text.conditions = seg.conditions) ∧
      ∀ link ∈ (extractLinks seg).2, link.conditions = seg.conditions := by
  constructor
  · intro text htext
    obtain ⟨-, rfl⟩ := extractLinks_fst_eq_some_iff.1 htext
    rfl
  · intro link hlink
    rw [extractLinks] at hlink
    obtain ⟨line, -, hline⟩ := List.mem_flatMap.1 hlink
    obtain ⟨markup, -, rfl⟩ := List.mem_map.1 hline
    rfl

theorem readContent_eq_ok {content : List (List Char)} {found : List Segment × List Draft.Link} :
    readContent content = .ok found ↔
      ∃ segs, segments content = .ok segs ∧
        found = ((segs.map extractLinks).filterMap Prod.fst,
          (segs.map extractLinks).flatMap Prod.snd) := by
  rw [readContent]
  constructor
  · intro h
    obtain ⟨segs, hsegs, hout⟩ := bind_eq_ok.1 h
    exact ⟨segs, hsegs, (Except.ok.inj hout).symm⟩
  · rintro ⟨segs, hsegs, rfl⟩
    exact bind_eq_ok.2 ⟨segs, hsegs, rfl⟩

/-- Legibility is handed on to the links and to what is left without them. -/
theorem allLegible_of_readContent {content : List (List Char)} {segs : List Segment}
    {links : List Draft.Link} (h : readContent content = .ok (segs, links)) :
    (∀ seg ∈ segs, Condition.AllLegible seg.conditions) ∧
      ∀ link ∈ links, Condition.AllLegible link.conditions := by
  obtain ⟨cut, hcut, hfound⟩ := readContent_eq_ok.1 h
  obtain ⟨rfl, rfl⟩ := Prod.mk.inj hfound
  have hlegible := allLegible_of_segments hcut
  refine ⟨fun seg hseg => ?_, fun link hlink => ?_⟩
  · obtain ⟨found, hfound, hfst⟩ := List.mem_filterMap.1 hseg
    obtain ⟨whole, hwhole, rfl⟩ := List.mem_map.1 hfound
    rw [(conditions_of_extractLinks whole).1 seg hfst]
    exact hlegible whole hwhole
  · obtain ⟨found, hfound, hsnd⟩ := List.mem_flatMap.1 hlink
    obtain ⟨whole, hwhole, rfl⟩ := List.mem_map.1 hfound
    rw [(conditions_of_extractLinks whole).2 link hsnd]
    exact hlegible whole hwhole

theorem isLegible_of_readPassage {header : Header} {body : List (List Char)} {p : Draft.Passage}
    (h : readPassage header body = .ok p) : p.IsLegible := by
  rw [readPassage] at h
  obtain ⟨preamble, hpreamble, hrest⟩ := bind_eq_ok.1 (mapError_eq_ok.1 h)
  obtain ⟨⟨segs, links⟩, hcontent, hout⟩ := bind_eq_ok.1 hrest
  obtain rfl := Except.ok.inj hout
  obtain ⟨hsegs, hlinks⟩ := allLegible_of_readContent hcontent
  exact ⟨hsegs, isLegible_of_mem_effects hpreamble, hlinks⟩

theorem isLegible_of_assemble {blocks : List Block} {d : Draft} (h : assemble blocks = .ok d) :
    d.IsLegible := by
  induction blocks generalizing d with
  | nil =>
    obtain rfl := Except.ok.inj h
    exact fun p hp => by cases hp
  | cons block rest ih =>
    cases block with
    | storyData => exact ih h
    | storyTitle title =>
      obtain ⟨draft, hdraft, hout⟩ := bind_eq_ok.1 h
      have hpassages : d.passages = draft.passages := by
        obtain rfl := Except.ok.inj hout
        split <;> rfl
      intro p hp
      rw [hpassages] at hp
      exact ih hdraft p hp
    | passage header body =>
      obtain ⟨passage, hpassage, hrest⟩ := bind_eq_ok.1 h
      obtain ⟨draft, hdraft, hout⟩ := bind_eq_ok.1 hrest
      obtain rfl := Except.ok.inj hout
      intro p hp
      rcases List.mem_cons.1 hp with rfl | hp
      · exact isLegible_of_readPassage hpassage
      · exact ih hdraft p hp

/-- **What is read from a script is legible.** -/
theorem isLegible_of_read {script : String} {d : Draft} (h : read script = .ok d) : d.IsLegible :=
  isLegible_of_assemble h

end Script

/-! ### Whole stories -/

/-- Everything in a story is legible. -/
structure Story.IsLegible (s : Story) : Prop where
  /-- The conditions of the text. -/
  segments : ∀ p, ∀ seg ∈ (s.passage p).segments, Condition.AllLegible seg.conditions
  /-- What happens on visits. -/
  effects : ∀ p, ∀ e ∈ (s.passage p).effects, e.IsLegible
  /-- The conditions of the links. -/
  links : ∀ l, Condition.AllLegible (s.link l).conditions

/-- A link of the story of a draft is one that was written in the draft. -/
theorem Story.of_ofDraft_eq_ok {d : Draft} {s : Story} (h : Story.ofDraft d = .ok s) :
    s.passages = d.passages.map Passage.ofDraft ∧
      ∀ link ∈ s.links, ∃ placed ∈ d.placedLinks, link.conditions = placed.2.conditions := by
  rw [Story.ofDraft] at h
  dsimp only at h
  split at h
  · cases h
  · obtain ⟨links, hlinks, hout⟩ := bind_eq_ok.1 h
    obtain rfl := Except.ok.inj hout
    refine ⟨rfl, fun link hlink => ?_⟩
    obtain ⟨placed, hplaced, hresolve⟩ := exists_mem_of_mapM_eq_ok hlinks link hlink
    refine ⟨placed, hplaced, ?_⟩
    rw [resolveLink] at hresolve
    split at hresolve
    · cases hresolve
    · obtain rfl := Except.ok.inj hresolve
      rfl

/-- A passage of the story of a draft is one that was written in the draft. -/
theorem Story.exists_passage_of_ofDraft {d : Draft} {s : Story} (h : Story.ofDraft d = .ok s)
    (p : s.PassageId) : ∃ q ∈ d.passages, s.passage p = Passage.ofDraft q := by
  have hmem : s.passage p ∈ d.passages.map Passage.ofDraft :=
    (Story.of_ofDraft_eq_ok h).1 ▸ List.get_mem _ p
  obtain ⟨q, hq, heq⟩ := List.mem_map.1 hmem
  exact ⟨q, hq, heq.symm⟩

/-- **The story of a legible draft is legible.** -/
theorem Story.isLegible_of_ofDraft {d : Draft} {s : Story} (hd : d.IsLegible)
    (h : Story.ofDraft d = .ok s) : s.IsLegible := by
  have hlinks := (Story.of_ofDraft_eq_ok h).2
  have hpassage := Story.exists_passage_of_ofDraft h
  refine ⟨fun p seg hseg => ?_, fun p e he => ?_, fun l => ?_⟩
  · obtain ⟨q, hq, heq⟩ := hpassage p
    rw [heq] at hseg
    exact (hd q hq).segments seg hseg
  · obtain ⟨q, hq, heq⟩ := hpassage p
    rw [heq] at he
    exact (hd q hq).effects e he
  · obtain ⟨placed, hplaced, hconditions⟩ := hlinks (s.link l) (List.get_mem _ l)
    obtain ⟨i, -, hi⟩ := List.mem_flatMap.1 hplaced
    obtain ⟨link, hlink, rfl⟩ := List.mem_map.1 hi
    rw [hconditions]
    exact (hd _ (List.get_mem _ i)).links link hlink

end Skein
