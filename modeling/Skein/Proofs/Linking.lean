import Mathlib.Data.List.FinRange
import Skein.Play
import Skein.Proofs.Success
import Skein.Story.Linking

/-!
# Linking is exact and loses nothing

A draft names the targets of its links by title, a story by number. Between the two stand two
searches, one for titles that occur twice and one for targets that no passage has, and both stop at
the first find. `Draft.Refused` says what is found without saying how, and linking is proved to
refuse a draft for exactly these reasons.

A story keeps everything that the draft says, apart from those tags of passages that mean nothing
here: `Story.IsLinked` says where, and `Story.toDraft` reads it back. Numbers are places in script
order, for passages as for links, so the links of a passage are numbered without gaps and in the
order in which they were written.

## Main definitions

* `Draft.Refused` — the reasons for which a draft is refused
* `Story.IsLinked` — how a story keeps what a draft says
* `Story.toDraft` — what is written of a story

## Main results

* `Story.ofDraft_eq_error_iff`, `Story.exists_ofDraft_eq_ok_iff` — which drafts are refused, and why
* `Story.isLinked_of_ofDraft`, `Story.IsLinked.toDraft_eq` — what a story keeps of its draft
* `Story.ofDraft_exact` — all of this together
-/

namespace Skein

/-! ### Reasons to refuse a draft -/

namespace Draft

/-- The titles of the passages, in order. -/
def titles (d : Draft) : List String :=
  d.passages.map Passage.title

/-- Every link leads to the title of some passage. -/
def Resolves (d : Draft) : Prop :=
  ∀ p ∈ d.passages, ∀ link ∈ p.links, link.target ∈ d.titles

/-- **The reasons for which a draft is refused.** A passage that has the title of an earlier one
comes first, whatever its links; otherwise it is a link with an unknown target. In either case it is
the first one in script order. -/
inductive Refused (d : Draft) : LinkingError → Prop where
  /-- The passage `p` has the title of an earlier passage, and is the first that does. -/
  | duplicate {before after : List Passage} {p : Passage}
      (hsplit : d.passages = before ++ p :: after) (hbefore : (before.map Passage.title).Nodup)
      (hrepeated : p.title ∈ before.map Passage.title) :
      d.Refused (.duplicatePassage p.title)
  /-- The link leads to no passage; all links of earlier passages, and the earlier links of its own
  passage, do. -/
  | unknown {before after : List Passage} {p : Passage} {linksBefore linksAfter : List Link}
      {link : Link} (hdistinct : d.titles.Nodup) (hsplit : d.passages = before ++ p :: after)
      (hlinks : p.links = linksBefore ++ link :: linksAfter)
      (hbefore : ∀ q ∈ before, ∀ l ∈ q.links, l.target ∈ d.titles)
      (hlinksBefore : ∀ l ∈ linksBefore, l.target ∈ d.titles) (hunknown : link.target ∉ d.titles) :
      d.Refused (.targetNotFound p.title link.text link.target)

end Draft

/-! ### The first find -/

/-- The repeated title that is found is the first that was seen before or is among the earlier
ones. -/
theorem repeatedTitle?_eq_some_iff {seen titles : List String} {title : String} :
    repeatedTitle? seen titles = some title ↔
      ∃ before after, titles = before ++ title :: after ∧ before.Nodup ∧
        (∀ t ∈ before, t ∉ seen) ∧ (title ∈ before ∨ title ∈ seen) := by
  induction titles generalizing seen with
  | nil =>
    refine iff_of_false (fun h => by cases h) ?_
    rintro ⟨before, after, heq, -⟩
    exact absurd heq (by simp)
  | cons first rest ih =>
    by_cases hseen : first ∈ seen
    · rw [repeatedTitle?, if_pos hseen, Option.some_inj]
      constructor
      · rintro rfl
        exact ⟨[], rest, rfl, List.nodup_nil, (fun t ht => by cases ht), .inr hseen⟩
      · rintro ⟨before, after, heq, -, hfresh, -⟩
        cases before with
        | nil => exact (List.cons.inj heq).1
        | cons t before =>
          obtain ⟨rfl, -⟩ := List.cons.inj heq
          exact absurd hseen (hfresh first List.mem_cons_self)
    · rw [repeatedTitle?, if_neg hseen, ih]
      constructor
      · rintro ⟨before, after, rfl, hnodup, hfresh, htitle⟩
        refine ⟨first :: before, after, rfl, ?_, ?_, ?_⟩
        · exact List.nodup_cons.2 ⟨fun h => hfresh first h List.mem_cons_self, hnodup⟩
        · exact List.forall_mem_cons.2 ⟨hseen, fun t ht h => hfresh t ht (List.mem_cons_of_mem _ h)⟩
        · rcases htitle with h | h
          · exact .inl (List.mem_cons_of_mem first h)
          · rcases List.mem_cons.1 h with rfl | h
            · exact .inl List.mem_cons_self
            · exact .inr h
      · rintro ⟨before, after, heq, hnodup, hfresh, htitle⟩
        cases before with
        | nil =>
          obtain ⟨rfl, -⟩ := List.cons.inj heq
          exact absurd (htitle.resolve_left List.not_mem_nil) hseen
        | cons t before =>
          obtain ⟨rfl, rfl⟩ := List.cons.inj heq
          obtain ⟨hnew, hnodup⟩ := List.nodup_cons.1 hnodup
          obtain ⟨-, hfresh⟩ := List.forall_mem_cons.1 hfresh
          refine ⟨before, after, rfl, hnodup, fun t ht h => ?_, ?_⟩
          · rcases List.mem_cons.1 h with rfl | h
            · exact hnew ht
            · exact hfresh t ht h
          · rcases htitle with h | h
            · rcases List.mem_cons.1 h with rfl | h
              · exact .inr List.mem_cons_self
              · exact .inl h
            · exact .inr (List.mem_cons_of_mem first h)

/-- A member of the concatenation of some lists stands in one of them. -/
theorem flatMap_eq_append_cons_iff {α β : Type} {f : α → List β} {l : List α} {b : β}
    {before after : List β} :
    l.flatMap f = before ++ b :: after ↔
      ∃ l₁ a l₂ m₁ m₂, l = l₁ ++ a :: l₂ ∧ f a = m₁ ++ b :: m₂ ∧ before = l₁.flatMap f ++ m₁ ∧
        after = m₂ ++ l₂.flatMap f := by
  constructor
  · intro h
    induction l generalizing before with
    | nil => exact absurd h (by simp)
    | cons a l ih =>
      -- Either `b` stands in the first of the lists, or in the concatenation of the others.
      rw [List.flatMap_cons, List.append_eq_append_iff] at h
      rcases h with ⟨rest, rfl, h⟩ | ⟨rest, ha, h⟩
      · obtain ⟨l₁, c, l₂, m₁, m₂, rfl, hc, rfl, rfl⟩ := ih h
        exact ⟨a :: l₁, c, l₂, m₁, m₂, rfl, hc, by rw [List.flatMap_cons, List.append_assoc], rfl⟩
      · cases rest with
        | nil =>
          obtain ⟨l₁, c, l₂, m₁, m₂, rfl, hc, hbefore, rfl⟩ := @ih [] h.symm
          refine ⟨a :: l₁, c, l₂, m₁, m₂, rfl, hc, ?_, rfl⟩
          rw [List.flatMap_cons, List.append_assoc, ← hbefore, ha, List.append_nil, List.append_nil]
        | cons c rest =>
          obtain ⟨rfl, rfl⟩ := List.cons.inj h
          exact ⟨[], a, l, before, rest, rfl, ha, rfl, rfl⟩
  · rintro ⟨l₁, a, l₂, m₁, m₂, rfl, ha, rfl, rfl⟩
    rw [List.flatMap_append, List.flatMap_cons, ha]
    simp only [List.append_assoc, List.cons_append]

/-! ### Links one by one -/

/-- A link as an author writes it, with the title of its target. -/
def Link.written (passages : List Passage) (link : Link passages.length) : Draft.Link :=
  { text := link.text
    target := (passages.get link.target).title
    conditions := link.conditions
    tags := link.tags }

theorem Draft.length_passages (d : Draft) :
    d.passages.length = (d.passages.map Passage.ofDraft).length :=
  (List.length_map Passage.ofDraft).symm

/-- What a link of a passage becomes in the story of a draft. -/
def Draft.resolve (d : Draft) (placed : Fin d.passages.length × Draft.Link) :
    Except LinkingError (Skein.Link (d.passages.map Passage.ofDraft).length) :=
  resolveLink (d.passages.map Passage.ofDraft)
    (placed.1.cast d.length_passages) placed.2

namespace Draft

variable {d : Draft} {placed : Fin d.passages.length × Draft.Link}

theorem map_title_ofDraft (d : Draft) :
    (d.passages.map Passage.ofDraft).map Skein.Passage.title = d.titles := by
  rw [List.map_map]
  rfl

/-- A target is unknown if it is no title. -/
theorem findFinIdx?_target_eq_none_iff {target : String} :
    (d.passages.map Passage.ofDraft).findFinIdx? (·.title = target) = none ↔
      target ∉ d.titles := by
  rw [List.findFinIdx?_eq_none_iff, ← map_title_ofDraft, List.mem_map]
  simp only [decide_eq_true_eq, not_exists, not_and]

theorem resolve_eq_error_iff {e : LinkingError} :
    d.resolve placed = .error e ↔
      placed.2.target ∉ d.titles ∧
        e = .targetNotFound (d.passages.get placed.1).title placed.2.text placed.2.target := by
  rw [← findFinIdx?_target_eq_none_iff, resolve, resolveLink]
  have htitle : ((d.passages.map Passage.ofDraft).get
      (placed.1.cast (List.length_map Passage.ofDraft).symm)).title =
        (d.passages.get placed.1).title := by
    simp [Passage.ofDraft]
  rw [htitle]
  split
  · next hnone => rw [hnone, eq_self_iff_true, true_and, Except.error.injEq, eq_comm]
  · next target hsome => simp [hsome]

/-- A link that is resolved says what was written. -/
theorem of_resolve_eq_ok {link : Skein.Link (d.passages.map Passage.ofDraft).length}
    (h : d.resolve placed = .ok link) :
    (link.source.val, link.written (d.passages.map Passage.ofDraft)) =
      (placed.1.val, placed.2) := by
  rw [resolve, resolveLink] at h
  split at h
  · cases h
  · next target hsome =>
    obtain rfl := Except.ok.inj h
    have htitle := of_decide_eq_true (List.findFinIdx?_eq_some_iff.1 hsome).1
    exact congrArg (fun target => (placed.1.val, { placed.2 with target := target })) htitle

theorem exists_resolve_eq_ok_iff :
    (∃ link, d.resolve placed = .ok link) ↔ placed.2.target ∈ d.titles := by
  rcases exists_eq_ok_or_exists_eq_error (d.resolve placed) with ⟨link, hok⟩ | ⟨e, herr⟩
  · refine iff_of_true ⟨link, hok⟩ (not_not.1 fun hunknown => ?_)
    rw [resolve_eq_error_iff.2 ⟨hunknown, rfl⟩] at hok
    cases hok
  · refine iff_of_false ?_ (resolve_eq_error_iff.1 herr).1
    rintro ⟨link, hok⟩
    rw [herr] at hok
    cases hok

end Draft

/-! ### Which drafts are refused -/

namespace Draft

variable {d : Draft}

/-- The title that is found is that of the first passage that has the title of an earlier one. -/
theorem repeatedTitle?_titles_eq_some_iff {title : String} :
    repeatedTitle? [] d.titles = some title ↔
      ∃ before p after, d.passages = before ++ p :: after ∧ (before.map Passage.title).Nodup ∧
        p.title ∈ before.map Passage.title ∧ title = p.title := by
  rw [repeatedTitle?_eq_some_iff, titles]
  constructor
  · rintro ⟨titlesBefore, titlesAfter, hsplit, hnodup, -, htitle⟩
    obtain ⟨before, rest, hpassages, rfl, hrest⟩ := List.map_eq_append_iff.1 hsplit
    obtain ⟨p, after, rfl, rfl, -⟩ := List.map_eq_cons_iff.1 hrest
    exact ⟨before, p, after, hpassages, hnodup, htitle.resolve_right List.not_mem_nil, rfl⟩
  · rintro ⟨before, p, after, hsplit, hnodup, hrepeated, rfl⟩
    refine ⟨before.map Passage.title, after.map Passage.title, ?_, hnodup,
      fun _ _ => List.not_mem_nil, .inl hrepeated⟩
    rw [hsplit, List.map_append, List.map_cons]

/-- Some of the passages have links with known targets only. -/
theorem forall_placed_iff {places : List (Fin d.passages.length)} :
    (∀ placed ∈ places.flatMap fun i => (d.passages.get i).links.map fun link => (i, link),
        ∃ link, d.resolve placed = .ok link) ↔
      ∀ p ∈ places.map d.passages.get, ∀ link ∈ p.links, link.target ∈ d.titles := by
  simp only [exists_resolve_eq_ok_iff, List.forall_mem_flatMap, List.forall_mem_map]

theorem resolves_iff :
    d.Resolves ↔ ∀ placed ∈ d.placedLinks, ∃ link, d.resolve placed = .ok link := by
  rw [placedLinks, forall_placed_iff, List.map_get_finRange]
  rfl

/-- **The first link that cannot be resolved**, in the order of the passages and then of their
links. -/
theorem mapM_resolve_eq_error_iff {e : LinkingError} :
    d.placedLinks.mapM d.resolve = .error e ↔
      ∃ before p after linksBefore link linksAfter, d.passages = before ++ p :: after ∧
        p.links = linksBefore ++ link :: linksAfter ∧
        (∀ q ∈ before, ∀ l ∈ q.links, l.target ∈ d.titles) ∧
        (∀ l ∈ linksBefore, l.target ∈ d.titles) ∧ link.target ∉ d.titles ∧
        e = .targetNotFound p.title link.text link.target := by
  rw [mapM_eq_error_iff, placedLinks]
  constructor
  · rintro ⟨_, placed, _, hsplit, hbefore, herr⟩
    obtain ⟨places, i, placesAfter, _, _, hplaces, hplaced, rfl, rfl⟩ :=
      flatMap_eq_append_cons_iff.1 hsplit
    obtain ⟨linksBefore, rest, hlinks, rfl, hrest⟩ := List.map_eq_append_iff.1 hplaced
    obtain ⟨link, linksAfter, rfl, rfl, rfl⟩ := List.map_eq_cons_iff.1 hrest
    obtain ⟨hearlier, hsame⟩ := List.forall_mem_append.1 hbefore
    obtain ⟨hunknown, rfl⟩ := resolve_eq_error_iff.1 herr
    have hpassages := List.map_get_finRange d.passages
    rw [hplaces, List.map_append, List.map_cons] at hpassages
    refine ⟨_, _, _, linksBefore, link, linksAfter, hpassages.symm, hlinks,
      forall_placed_iff.1 hearlier, fun l hl => ?_, hunknown, rfl⟩
    exact exists_resolve_eq_ok_iff.1 (hsame (i, l) (List.mem_map_of_mem hl))
  · rintro ⟨before, p, after, linksBefore, link, linksAfter, hsplit, hlinks, hbefore, hlinksBefore,
      hunknown, rfl⟩
    obtain ⟨places, rest, hplaces, rfl, hrest⟩ :=
      List.map_eq_append_iff.1 ((List.map_get_finRange d.passages).trans hsplit)
    obtain ⟨i, placesAfter, rfl, rfl, -⟩ := List.map_eq_cons_iff.1 hrest
    have hplaced : (d.passages.get i).links.map (fun link => (i, link)) =
        linksBefore.map (fun link => (i, link)) ++
          (i, link) :: linksAfter.map fun link => (i, link) := by
      rw [hlinks, List.map_append, List.map_cons]
    refine ⟨_, (i, link), _,
      flatMap_eq_append_cons_iff.2 ⟨places, i, placesAfter, _, _, hplaces, hplaced, rfl, rfl⟩, ?_,
      resolve_eq_error_iff.2 ⟨hunknown, rfl⟩⟩
    refine List.forall_mem_append.2 ⟨forall_placed_iff.2 hbefore, fun placed hplaced => ?_⟩
    obtain ⟨l, hl, rfl⟩ := List.mem_map.1 hplaced
    exact exists_resolve_eq_ok_iff.2 (hlinksBefore l hl)

end Draft

namespace Story

variable {d : Draft}

theorem ofDraft_of_repeated {title : String} (h : repeatedTitle? [] d.titles = some title) :
    ofDraft d = .error (.duplicatePassage title) := by
  rw [ofDraft]
  dsimp only
  split
  · next found hfound =>
    rw [Draft.map_title_ofDraft, h] at hfound
    rw [Option.some.inj hfound]
  · next hnone =>
    rw [Draft.map_title_ofDraft, h] at hnone
    cases hnone

theorem repeatedTitle?_titles_eq_none_iff : repeatedTitle? [] d.titles = none ↔ d.titles.Nodup := by
  rw [repeatedTitle?_eq_none_iff]
  exact and_iff_left fun _ _ => List.not_mem_nil

/-- If no title is repeated, linking is resolving every link. -/
theorem ofDraft_of_nodup (h : d.titles.Nodup) :
    ofDraft d = (d.placedLinks.mapM d.resolve).map fun links =>
      { title := d.title
        passages := d.passages.map Passage.ofDraft
        links := links
        titles_nodup := by rwa [Draft.map_title_ofDraft] } := by
  rw [ofDraft]
  dsimp only
  split
  · next found hfound =>
    rw [Draft.map_title_ofDraft, repeatedTitle?_titles_eq_none_iff.2 h] at hfound
    cases hfound
  · next hnone =>
    change (d.placedLinks.mapM d.resolve >>= _) = _
    cases d.placedLinks.mapM d.resolve with
    | error e => rfl
    | ok links => rfl

/-- **When a draft has a story**: its titles are distinct, and its links lead to passages. -/
theorem exists_ofDraft_eq_ok_iff : (∃ s, ofDraft d = .ok s) ↔ d.titles.Nodup ∧ d.Resolves := by
  cases hrepeated : repeatedTitle? [] d.titles with
  | some title =>
    rw [ofDraft_of_repeated hrepeated]
    refine iff_of_false (fun ⟨s, hs⟩ => by cases hs) fun ⟨hnodup, _⟩ => ?_
    rw [repeatedTitle?_titles_eq_none_iff.2 hnodup] at hrepeated
    cases hrepeated
  | none =>
    have hnodup := repeatedTitle?_titles_eq_none_iff.1 hrepeated
    rw [ofDraft_of_nodup hnodup, and_iff_right hnodup, Draft.resolves_iff, ← exists_mapM_eq_ok_iff]
    constructor
    · rintro ⟨s, hs⟩
      obtain ⟨links, hlinks, -⟩ := map_eq_ok.1 hs
      exact ⟨links, hlinks⟩
    · rintro ⟨links, hlinks⟩
      exact ⟨_, map_eq_ok.2 ⟨links, hlinks, rfl⟩⟩

/-- **Why a draft has no story.** -/
theorem ofDraft_eq_error_iff {e : LinkingError} : ofDraft d = .error e ↔ d.Refused e := by
  cases hrepeated : repeatedTitle? [] d.titles with
  | some title =>
    rw [ofDraft_of_repeated hrepeated, Except.error.injEq]
    obtain ⟨before, p, after, hsplit, hnodup, hmem, rfl⟩ :=
      Draft.repeatedTitle?_titles_eq_some_iff.1 hrepeated
    constructor
    · rintro rfl
      exact .duplicate hsplit hnodup hmem
    · intro h
      cases h with
      | duplicate hsplit' hnodup' hmem' =>
        have hagain := Draft.repeatedTitle?_titles_eq_some_iff.2
          ⟨_, _, _, hsplit', hnodup', hmem', rfl⟩
        rw [Option.some.inj (hrepeated.symm.trans hagain)]
      | unknown hdistinct _ _ _ _ _ =>
        rw [repeatedTitle?_titles_eq_none_iff.2 hdistinct] at hrepeated
        cases hrepeated
  | none =>
    have hnodup := repeatedTitle?_titles_eq_none_iff.1 hrepeated
    rw [ofDraft_of_nodup hnodup, map_eq_error, Draft.mapM_resolve_eq_error_iff]
    constructor
    · rintro ⟨before, p, after, linksBefore, link, linksAfter, hsplit, hlinks, hbefore,
        hlinksBefore, hunknown, rfl⟩
      exact .unknown hnodup hsplit hlinks hbefore hlinksBefore hunknown
    · intro h
      cases h with
      | duplicate hsplit hnodup' hmem =>
        have hsome := Draft.repeatedTitle?_titles_eq_some_iff.2
          ⟨_, _, _, hsplit, hnodup', hmem, rfl⟩
        rw [hrepeated] at hsome
        cases hsome
      | unknown _ hsplit hlinks hbefore hlinksBefore hunknown =>
        exact ⟨_, _, _, _, _, _, hsplit, hlinks, hbefore, hlinksBefore, hunknown, rfl⟩

end Story

/-! ### What a story keeps -/

namespace Story

variable (s : Story)

/-- A link of the story as an author writes it. -/
def writtenLink (l : s.LinkId) : Draft.Link :=
  (s.link l).written s.passages

/-- **How a story keeps what a draft says.** -/
structure IsLinked (d : Draft) : Prop where
  /-- The title is the same. -/
  title : s.title = d.title
  /-- Every passage has a number. -/
  length_passages : s.passages.length = d.passages.length
  /-- A passage is numbered by its place in script order, and says what was written there; of its
  tags it keeps whether it is visited once only. Its links are those that were written there, in
  order. -/
  passage : ∀ p : s.PassageId, ∃ written, d.passages[p.val]? = some written ∧
    (s.passage p).title = written.title ∧ (s.passage p).header = written.header ∧
    (s.passage p).segments = written.segments ∧ (s.passage p).effects = written.effects ∧
    ((s.passage p).isOneTime = true ↔ Tag.once ∈ written.tags) ∧
    (s.linksFrom p).map s.writtenLink = written.links
  /-- Links are numbered passage by passage, and in each passage as they were written. -/
  links : s.linkIds.map (fun l => ((s.link l).source.val, s.writtenLink l)) =
    d.passages.zipIdx.flatMap fun (written, i) => written.links.map fun link => (i, link)
  /-- Every link is listed once, under its source. -/
  count_linksFrom : ∀ (l : s.LinkId) (p : s.PassageId),
    (s.linksFrom p).count l = if (s.link l).source = p then 1 else 0
  /-- The passage with a title is the one that has this title. -/
  passageId? : ∀ (title : String) (p : s.PassageId),
    s.passageId? title = some p ↔ (s.passage p).title = title

/-- **What is written of a story**; the tags of its passages are left out. -/
def toDraft : Draft where
  title := s.title
  passages := s.passageIds.map fun p =>
    { title := (s.passage p).title
      header := (s.passage p).header
      segments := (s.passage p).segments
      effects := (s.passage p).effects
      links := (s.linksFrom p).map s.writtenLink }

variable {s}

/-- Every link is listed once, under its source. -/
theorem count_linksFrom (l : s.LinkId) (p : s.PassageId) :
    (s.linksFrom p).count l = if (s.link l).source = p then 1 else 0 := by
  have hnodup : (s.linksFrom p).Nodup := (List.nodup_finRange _).filter _
  rw [hnodup.count]
  exact if_congr mem_linksFrom rfl rfl

/-- The passage with a title is the one that has this title. -/
theorem passageId?_eq_some_iff {title : String} {p : s.PassageId} :
    s.passageId? title = some p ↔ (s.passage p).title = title := by
  rw [passageId?, List.findFinIdx?_eq_some_iff]
  constructor
  · rintro ⟨htitle, -⟩
    exact of_decide_eq_true htitle
  · intro htitle
    refine ⟨decide_eq_true htitle, fun q hq hsame => ?_⟩
    -- Two passages with one title would be one and the same.
    have hlt : ∀ r : s.PassageId, r.val < (s.passages.map Passage.title).length := by
      intro r
      rw [List.length_map]
      exact r.isLt
    have heq : (s.passages.map Passage.title).get ⟨q.val, hlt q⟩ =
        (s.passages.map Passage.title).get ⟨p.val, hlt p⟩ := by
      rw [List.get_eq_getElem, List.get_eq_getElem, List.getElem_map, List.getElem_map]
      exact (of_decide_eq_true hsame).trans htitle.symm
    exact absurd (s.titles_nodup.getElem_inj_iff.1 heq) (Nat.ne_of_lt hq)

/-- The links of a passage, picked from all links by the number of their source. -/
theorem map_writtenLink_linksFrom (p : s.PassageId) :
    (s.linksFrom p).map s.writtenLink =
      ((s.linkIds.map fun l => ((s.link l).source.val, s.writtenLink l)).filter
        (·.1 = p.val)).map Prod.snd := by
  rw [linksFrom, List.filter_map, List.map_map]
  simp only [Function.comp_def, Fin.val_inj]

end Story

theorem zipIdx_eq_map_finRange {α : Type} (l : List α) :
    l.zipIdx = (List.finRange l.length).map fun i => (l.get i, i.val) := by
  refine List.ext_getElem (by simp) fun i h _ => ?_
  simp

/-- Of some lists that belong to different members, the one that belongs to a given member. -/
theorem flatMap_ite_eq {α β : Type} [DecidableEq α] {l : List α} (hl : l.Nodup) {a : α}
    (ha : a ∈ l) (f : α → List β) : (l.flatMap fun b => if b = a then f b else []) = f a := by
  induction l with
  | nil => cases ha
  | cons b l ih =>
    obtain ⟨hb, hl⟩ := List.nodup_cons.1 hl
    rw [List.flatMap_cons]
    rcases List.mem_cons.1 ha with rfl | ha
    · have hrest : (l.flatMap fun b => if b = a then f b else []) = [] := by
        refine List.flatMap_eq_nil_iff.2 fun c hc => if_neg ?_
        rintro rfl
        exact hb hc
      rw [if_pos rfl, hrest, List.append_nil]
    · have hne : b ≠ a := by
        rintro rfl
        exact hb ha
      rw [if_neg hne, List.nil_append, ih hl ha]

namespace Draft

variable {d : Draft}

/-- The links of a passage, picked from all links by its place. -/
theorem map_snd_filter_placedLinks (i : Fin d.passages.length) :
    ((d.placedLinks.map fun placed => (placed.1.val, placed.2)).filter (·.1 = i.val)).map Prod.snd =
      (d.passages.get i).links := by
  rw [placedLinks, List.map_flatMap, List.filter_flatMap, List.map_flatMap,
    ← flatMap_ite_eq (List.nodup_finRange _) (List.mem_finRange i)
      fun j => (d.passages.get j).links]
  refine List.flatMap_congr fun j _ => ?_
  rw [List.map_map, List.filter_map, List.map_map]
  simp only [Function.comp_def, Fin.val_inj, List.map_id']
  by_cases h : j = i
  · rw [if_pos h, decide_eq_true h, List.filter_true]
  · rw [if_neg h, decide_eq_false h, List.filter_false]

/-- All links with their places, told from the passages and their places. -/
theorem map_placedLinks :
    (d.placedLinks.map fun placed => (placed.1.val, placed.2)) =
      d.passages.zipIdx.flatMap fun (written, i) => written.links.map fun link => (i, link) := by
  rw [placedLinks, zipIdx_eq_map_finRange, List.map_flatMap, List.flatMap_map]
  simp only [List.map_map, Function.comp_def]

end Draft

namespace Story

variable {d : Draft} {s : Story}

theorem map_linkIds {β : Type} (f : Link s.passages.length → β) :
    s.linkIds.map (fun l => f (s.link l)) = s.links.map f := by
  conv_rhs => rw [← List.map_get_finRange s.links, List.map_map]
  rfl

/-- A story consists of the passages of its draft and of the links that were resolved. -/
theorem exists_eq_of_ofDraft (h : ofDraft d = .ok s) :
    ∃ links titles_nodup, d.placedLinks.mapM d.resolve = .ok links ∧
      s = ⟨d.title, d.passages.map Passage.ofDraft, links, titles_nodup⟩ := by
  obtain ⟨hnodup, -⟩ := exists_ofDraft_eq_ok_iff.1 ⟨s, h⟩
  rw [ofDraft_of_nodup hnodup] at h
  obtain ⟨links, hlinks, hs⟩ := map_eq_ok.1 h
  exact ⟨links, _, hlinks, hs.symm⟩

/-- The links of a story are the links that were written, in order. -/
theorem map_written_links (h : ofDraft d = .ok s) :
    s.links.map (fun link => (link.source.val, link.written s.passages)) =
      d.placedLinks.map fun placed => (placed.1.val, placed.2) := by
  obtain ⟨links, _, hlinks, rfl⟩ := exists_eq_of_ofDraft h
  exact map_eq_map_of_mapM_eq_ok hlinks fun _ _ hlink => Draft.of_resolve_eq_ok hlink

/-- **What a story keeps of its draft.** -/
theorem isLinked_of_ofDraft (h : ofDraft d = .ok s) : s.IsLinked d := by
  obtain ⟨htitle, hpassages⟩ : s.title = d.title ∧ s.passages = d.passages.map Passage.ofDraft := by
    obtain ⟨_, _, -, rfl⟩ := exists_eq_of_ofDraft h
    exact ⟨rfl, rfl⟩
  have hlinks : s.linkIds.map (fun l => ((s.link l).source.val, s.writtenLink l)) =
      d.placedLinks.map fun placed => (placed.1.val, placed.2) :=
    (map_linkIds fun link => (link.source.val, link.written s.passages)).trans (map_written_links h)
  have hlength : s.passages.length = d.passages.length := by rw [hpassages, List.length_map]
  refine ⟨htitle, hlength, fun p => ?_, ?_, count_linksFrom, fun _ _ => passageId?_eq_some_iff⟩
  · have hlt : p.val < d.passages.length := hlength ▸ p.isLt
    have hp : s.passage p = Passage.ofDraft d.passages[p.val] := by
      rw [passage, List.get_eq_getElem]
      simp only [hpassages, List.getElem_map]
    refine ⟨d.passages[p.val], List.getElem?_eq_getElem hlt, ?_, ?_, ?_, ?_, ?_, ?_⟩
    · rw [hp]; rfl
    · rw [hp]; rfl
    · rw [hp]; rfl
    · rw [hp]; rfl
    · rw [hp]; exact List.contains_iff_mem
    · rw [map_writtenLink_linksFrom, hlinks]
      exact Draft.map_snd_filter_placedLinks ⟨p.val, hlt⟩
  · rw [hlinks, Draft.map_placedLinks]

/-- **The draft of a story can be read back from it**, up to the tags of its passages. -/
theorem IsLinked.toDraft_eq (h : s.IsLinked d) :
    s.toDraft = { d with passages := d.passages.map fun p => { p with tags := [] } } := by
  rw [toDraft, h.title]
  refine congrArg (Draft.mk d.title) (List.ext_getElem ?_ fun i hi hi' => ?_)
  · rw [List.length_map, List.length_map, passageIds, List.length_finRange, h.length_passages]
  · have hlt : i < s.passages.length := by simpa [passageIds] using hi
    have hidlt : i < s.passageIds.length := by simpa using hi
    have hid : s.passageIds[i] = ⟨i, hlt⟩ := by simp [passageIds]
    obtain ⟨written, hwritten, htitle, hheader, hsegments, heffects, -, hlinks⟩ :=
      h.passage ⟨i, hlt⟩
    obtain ⟨_, rfl⟩ := List.getElem?_eq_some_iff.1 hwritten
    rw [List.getElem_map, List.getElem_map, hid, htitle, hheader, hsegments, heffects, hlinks]

end Story

/-! ### Linking as a whole -/

namespace Play

variable {s : Story}

/-- Nothing has happened yet in a playthrough, and nothing was set for it. -/
structure IsUntouched (play : Play s) : Prop where
  /-- No passage is set for the beginning. -/
  start : play.start = none
  /-- The player owns and knows nothing. -/
  player : play.player = {}
  /-- No passage was visited. -/
  visited : ∀ p, play.visited.get p = false
  /-- No link was taken. -/
  taken : ∀ l, play.taken.get l = false

theorem isUntouched_empty : ({} : Play s).IsUntouched :=
  ⟨rfl, rfl, fun p => Vector.getElem_replicate p.isLt, fun l => Vector.getElem_replicate l.isLt⟩

end Play

/-- **Linking is exact and loses nothing.** A draft has a story if its titles are distinct and its
links lead to passages, and is refused for the first reason that there is otherwise. The story keeps
what the draft says, so the draft can be read back from it, up to the tags of its passages; and a
playthrough of it begins with nothing. -/
theorem Story.ofDraft_exact (d : Draft) :
    ((∃ s, Story.ofDraft d = .ok s) ↔ d.titles.Nodup ∧ d.Resolves) ∧
    (∀ e, Story.ofDraft d = .error e ↔ d.Refused e) ∧
    ∀ s, Story.ofDraft d = .ok s →
      s.IsLinked d ∧
      s.toDraft = { d with passages := d.passages.map fun p => { p with tags := [] } } ∧
      ({} : Play s).IsUntouched := by
  refine ⟨exists_ofDraft_eq_ok_iff, fun e => ofDraft_eq_error_iff, fun s hs => ?_⟩
  have hlinked := isLinked_of_ofDraft hs
  exact ⟨hlinked, hlinked.toDraft_eq, Play.isUntouched_empty⟩

/-- A bank and an island, with links that lead on, back and nowhere else. -/
def islandDraft : Draft where
  title := "Island"
  passages := [
    { title := "Bank"
      tags := ["quiet"]
      links := [⟨"Row", "Island", [], []⟩, ⟨"Wait", "Bank", [], []⟩] },
    { title := "Island"
      header := "At last"
      tags := ["far", Tag.once]
      segments := [⟨"Sand.\n", [⟨true, .fact, "day"⟩]⟩]
      effects := [⟨.addItem, "shell"⟩]
      links := [⟨"Row", "Bank", [⟨true, .hasItem, "oar"⟩], [Tag.back]⟩] }]

/-- Another bank, with a link that leads to no passage. -/
def secondBank : Draft.Passage :=
  { title := "Bank", links := [⟨"Fly", "Moon", [], []⟩] }

/-- The island has a story that keeps what is written of it; with a second bank, the bank is what is
reported and not the link. -/
theorem Story.ofDraft_exact_islandDraft :
    (∃ s, Story.ofDraft islandDraft = .ok s ∧ s.IsLinked islandDraft ∧
      s.toDraft = { islandDraft with
        passages := islandDraft.passages.map fun p => { p with tags := [] } } ∧
      ({} : Play s).IsUntouched) ∧
    Story.ofDraft { islandDraft with passages := islandDraft.passages ++ [secondBank] } =
      .error (.duplicatePassage "Bank") := by
  obtain ⟨hok, -, hstory⟩ := Story.ofDraft_exact islandDraft
  have hresolves : islandDraft.Resolves := by
    simp [Draft.Resolves, Draft.titles, islandDraft]
  obtain ⟨s, hs⟩ := hok.2 ⟨by decide, hresolves⟩
  refine ⟨⟨s, hs, hstory s hs⟩, ?_⟩
  obtain ⟨-, herror, -⟩ :=
    Story.ofDraft_exact { islandDraft with passages := islandDraft.passages ++ [secondBank] }
  have hrefused : Draft.Refused { islandDraft with
      passages := islandDraft.passages ++ [secondBank] } (.duplicatePassage secondBank.title) :=
    .duplicate rfl (by decide) (by decide)
  exact (herror _).2 hrefused

end Skein
