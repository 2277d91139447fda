import Skein.Proofs.Branch

/-!
# Exploring more undoes nothing

Marks do two things to a branch. A link that was taken is one link less that the branch asks for,
so marks of links can only help. The mark of a one-time passage does more: the links to it are not
offered any more, and with them everything that is behind them and nowhere else drops out of the
branch. Two playthroughs that differ in their marks alone therefore walk through different parts of
the story. The one with more marks walks through less of it (`Play.Precedes.exists_descendants`),
and it judges no condition that the other did not judge, so a branch that is explored stays
explored.

That the player is the same is needed: a condition that comes to hold can open a way to links that
were never seen before.

## Main definitions

* `Play.Precedes` — the player is the same, and all marks are set in the second playthrough too

## Main results

* `Play.Precedes.exists_descendants` — with more marks the branch behind a link is smaller
* `Play.isExplored_of_precedes` — a branch that is explored stays explored
-/

namespace Skein

namespace Play

variable {s : Story} {play later : Play s}

/-- Every mark of the first playthrough is set in the second one, and the player is the same. -/
structure Precedes (play later : Play s) : Prop where
  player : play.player = later.player
  visited : ∀ p, play.visited.get p = true → later.visited.get p = true
  taken : ∀ l, play.taken.get l = true → later.taken.get l = true

/-! ### What is listed of a branch -/

/-- The walk that lists a branch begins with the link that the branch is behind. -/
theorem descendants_eq_ok_iff {l : s.LinkId} {source : s.PassageId} {found : List s.LinkId} :
    play.descendants l source = .ok found ↔
      explore (play.continuations source) [l] s.linkIds = .ok (l :: found) := by
  rw [descendants]
  constructor
  · intro h
    obtain ⟨met, hmet, htail⟩ := bind_eq_ok.1 h
    obtain rfl : met.tail = found := Except.ok.inj htail
    have hwalk := (explore_eq_ok_iff.1 hmet).1
    rw [walk_cons_of_mem (Story.mem_linkIds l)] at hwalk
    rw [hmet, hwalk, List.tail_cons]
  · intro h
    exact bind_eq_ok.2 ⟨l :: found, h, rfl⟩

/-- A link is not listed in the branch behind it. -/
theorem not_mem_of_descendants {l : s.LinkId} {source : s.PassageId} {found : List s.LinkId}
    (h : play.descendants l source = .ok found) : l ∉ found := by
  have hwalk := (explore_eq_ok_iff.1 (descendants_eq_ok_iff.1 h)).1
  have hnodup : (l :: found).Nodup := hwalk ▸ nodup_walk (List.nodup_finRange _)
  exact (List.nodup_cons.1 hnodup).1

/-- What it means that a branch is explored, where nothing is known of links that the walk does not
meet. -/
theorem isExplored_eq_ok_true_iff {l : s.LinkId} {source : s.PassageId} :
    play.isExplored l source = .ok true ↔
      play.taken.get l = true ∧ (s.link l).isExit = false ∧
        ∃ found, play.descendants l source = .ok found ∧
          ∀ c ∈ found, play.taken.get c = true ∨ (s.link c).isExit = true := by
  constructor
  · intro h
    have hlisted : ∃ found, play.descendants l source = .ok found := by
      rw [isExplored] at h
      split at h
      · cases h
      · obtain ⟨found, hfound, -⟩ := bind_eq_ok.1 h
        exact ⟨found, hfound⟩
    obtain ⟨found, hfound⟩ := hlisted
    obtain ⟨explored, hexplored, hiff⟩ := isExplored_eq_ok hfound
    obtain rfl : explored = true := Except.ok.inj (hexplored.symm.trans h)
    obtain ⟨htaken, hexit, hall⟩ := hiff.1 rfl
    exact ⟨htaken, hexit, found, hfound, hall⟩
  · rintro ⟨htaken, hexit, found, hfound, hall⟩
    obtain ⟨explored, hexplored, hiff⟩ := isExplored_eq_ok hfound
    rw [hexplored, hiff.2 ⟨htaken, hexit, hall⟩]

namespace Precedes

/-! ### With more marks -/

/-- A link that can be judged can be judged with more marks, and it is not offered only then. -/
theorem exists_isOffered (h : play.Precedes later) {l : s.LinkId} {b : Bool}
    (hl : play.isOffered l = .ok b) :
    ∃ b', later.isOffered l = .ok b' ∧ (b' = true → b = true) := by
  rw [isOffered] at hl ⊢
  split
  · exact ⟨false, rfl, fun hfalse => absurd hfalse Bool.false_ne_true⟩
  · next hlater =>
    have hplay : ¬((s.passage (s.link l).target).isOneTime &&
        play.visited.get (s.link l).target) = true := by
      intro hused
      obtain ⟨honce, hvisited⟩ := Bool.and_eq_true_iff.1 hused
      exact hlater (Bool.and_eq_true_iff.2 ⟨honce, h.visited _ hvisited⟩)
    rw [if_neg hplay, h.player] at hl
    exact ⟨b, hl, id⟩

/-- With more marks fewer links follow a link directly. -/
theorem exists_continuations (h : play.Precedes later) {source : s.PassageId} {l : s.LinkId}
    {children : List s.LinkId} (hl : play.continuations source l = .ok children) :
    ∃ part, later.continuations source l = .ok part ∧ part ⊆ children := by
  obtain ⟨links, hlinks, hchildren⟩ := bind_eq_ok.1 hl
  obtain rfl := Except.ok.inj hchildren
  obtain ⟨part, hpart, hsub⟩ := exists_select_sublist hlinks fun _ _ => h.exists_isOffered
  exact ⟨_, bind_eq_ok.2 ⟨part, hpart, rfl⟩, (hsub.filter _).subset⟩

/-- **With more marks the branch behind a link is smaller**, and it can be listed if it could be
listed before. -/
theorem exists_descendants (h : play.Precedes later) {l : s.LinkId} {source : s.PassageId}
    {found : List s.LinkId} (hfound : play.descendants l source = .ok found) :
    ∃ part, later.descendants l source = .ok part ∧ part ⊆ found := by
  obtain ⟨met, hmet, hsub⟩ := exists_explore_subset Story.mem_linkIds
    (fun _ _ => h.exists_continuations) (descendants_eq_ok_iff.1 hfound)
  have hpart : later.descendants l source = .ok met.tail := bind_eq_ok.2 ⟨met, hmet, rfl⟩
  refine ⟨met.tail, hpart, fun c hc => ?_⟩
  have hne : c ≠ l := fun heq => not_mem_of_descendants hpart (heq ▸ hc)
  exact (List.mem_cons.1 (hsub (List.mem_of_mem_tail hc))).resolve_left hne

end Precedes

/-- **A branch that is explored stays explored** when more passages are visited and more links are
taken, as long as the player stays the same. -/
theorem isExplored_of_precedes (h : play.Precedes later) {l : s.LinkId} {source : s.PassageId}
    (hexplored : play.isExplored l source = .ok true) : later.isExplored l source = .ok true := by
  obtain ⟨htaken, hexit, found, hfound, hall⟩ := isExplored_eq_ok_true_iff.1 hexplored
  obtain ⟨part, hpart, hsub⟩ := h.exists_descendants hfound
  refine isExplored_eq_ok_true_iff.2 ⟨h.taken l htaken, hexit, part, hpart, fun c hc => ?_⟩
  exact (hall c (hsub hc)).imp_left (h.taken c)

end Play

/-! ### A well -/

/-- A yard behind a gate, with a well in it that can be climbed down once and a cave below. -/
def yard : Story where
  title := ""
  passages := [⟨"Gate", "", [], [], false⟩, ⟨"Yard", "", [], [], false⟩,
    ⟨"Well", "", [], [], true⟩, ⟨"Cave", "", [], [], false⟩]
  links := [⟨0, 1, "Yard", [], []⟩, ⟨1, 2, "Climb down", [], [Tag.exit]⟩,
    ⟨2, 3, "Crawl on", [], [Tag.exit]⟩]
  titles_nodup := by decide

namespace yard

/-- The gate, in front of the yard. -/
def gate : yard.PassageId := ⟨0, by decide⟩

/-- The link into the yard. -/
def enter : yard.LinkId := ⟨0, by decide⟩

/-- The link into the well. -/
def climb : yard.LinkId := ⟨1, by decide⟩

/-- The link from the well into the cave. -/
def crawl : yard.LinkId := ⟨2, by decide⟩

/-- The playthrough in which the yard was entered. -/
def above : Play yard :=
  (Play.follow enter {}).play

/-- The same playthrough after the well was climbed down. -/
def below : Play yard :=
  (above.follow climb).play

theorem above_precedes_below : above.Precedes below where
  player := by decide +kernel
  visited := by decide +kernel
  taken := by decide +kernel

/-- The yard with the well still open leads down into the cave. -/
theorem descendants_above : above.descendants enter gate = .ok [climb, crawl] := by
  have hyard : above.continuations gate enter = .ok [climb] :=
    toOption_eq_some.1 (by decide +kernel)
  have hwell : above.continuations gate climb = .ok [crawl] :=
    toOption_eq_some.1 (by decide +kernel)
  have hcave : above.continuations gate crawl = .ok [] := toOption_eq_some.1 (by decide +kernel)
  exact Play.descendants_eq_ok_iff.2 <| explore_cons_eq_ok (by decide) hyard <|
    explore_cons_eq_ok (by decide) hwell <| explore_cons_eq_ok (by decide) hcave <| explore_nil _ _

/-- With the well used up, the yard leads nowhere. -/
theorem descendants_below : below.descendants enter gate = .ok [] := by
  have hyard : below.continuations gate enter = .ok [] := toOption_eq_some.1 (by decide +kernel)
  exact Play.descendants_eq_ok_iff.2 <| explore_cons_eq_ok (by decide) hyard <| explore_nil _ _

/-- The way through the well is closed after it was taken, so the branch behind the gate is smaller
then, and it is explored as it was before. -/
theorem isExplored_of_precedes_climb :
    above.Precedes below ∧ above.isExplored enter gate = .ok true ∧
    above.descendants enter gate = .ok [climb, crawl] ∧
    below.descendants enter gate = .ok [] ∧ below.isExplored enter gate = .ok true := by
  have habove : above.isExplored enter gate = .ok true :=
    Play.isExplored_eq_ok_true_iff.2
      ⟨by decide +kernel, by decide, [climb, crawl], descendants_above, by decide⟩
  exact ⟨above_precedes_below, habove, descendants_above, descendants_below,
    Play.isExplored_of_precedes above_precedes_below habove⟩

end yard

end Skein
