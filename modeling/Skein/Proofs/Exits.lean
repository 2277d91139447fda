import Skein.Proofs.Branch
import Skein.Story.Linking

/-!
# Branches that can only be left

An exit leaves the branch it stands in. Of the exit itself a branch asks nothing: whether it was
taken or not, the branch is judged alike (`Play.isExplored_markTaken`). But the walk that lists a
branch goes on through exits, so the links behind an exit belong to the branch in front of it, and
the branch is not explored before all of them were taken. Where a link is followed by exits only,
this is all that can be missing (`Play.isExplored_iff_behind_exits`), and it does happen: at the
office, the street that the only exit leads to keeps the office unexplored.

## Main results

* `Play.isExplored_markTaken` — taking an exit makes no difference to any branch
* `Play.isExplored_iff_behind_exits` — what a branch asks for that can only be left by exits
-/

namespace Skein

namespace Play

variable {s : Story} {play : Play s}

/-! ### The exit itself -/

/-- What is listed of a branch does not depend on which links were taken. -/
theorem descendants_markTaken (e l : s.LinkId) (source : s.PassageId) :
    (play.markTaken e).descendants l source = play.descendants l source := rfl

/-- **Taking an exit makes no difference to any branch**, the one behind the exit included, which
is never explored. -/
theorem isExplored_markTaken {e : s.LinkId} (he : (s.link e).isExit = true) (l : s.LinkId)
    (source : s.PassageId) :
    (play.markTaken e).isExplored l source = play.isExplored l source := by
  have hjudged : ∀ c, ((play.markTaken e).taken.get c || (s.link c).isExit) =
      (play.taken.get c || (s.link c).isExit) := by
    intro c
    rw [get_markTaken]
    by_cases h : c = e
    · rw [h, he, Bool.or_true, Bool.or_true]
    · rw [decide_eq_false h, Bool.false_or]
  have hstart : (!(play.markTaken e).taken.get l || (s.link l).isExit) =
      (!play.taken.get l || (s.link l).isExit) := by
    cases hl : (s.link l).isExit with
    | true => rw [Bool.or_true, Bool.or_true]
    | false =>
      have htaken := hjudged l
      rw [hl, Bool.or_false, Bool.or_false] at htaken
      rw [htaken]
  rw [isExplored, isExplored, hstart, descendants_markTaken]
  simp only [hjudged]

/-! ### What lies behind exits -/

/-- Whether a branch is explored, told by what can be reached. -/
theorem exists_isExplored_iff (h : ∀ l, ∃ b, play.isOffered l = .ok b) (l : s.LinkId)
    (source : s.PassageId) :
    ∃ explored, play.isExplored l source = .ok explored ∧
      (explored = true ↔ play.taken.get l = true ∧ (s.link l).isExit = false ∧
        ∀ c, c ≠ l → Relation.TransGen (play.Continues source) l c →
          play.taken.get c = true ∨ (s.link c).isExit = true) := by
  obtain ⟨found, hfound, -, hmem⟩ := exists_descendants_eq_ok h l source
  obtain ⟨explored, hexplored, hiff⟩ := isExplored_eq_ok hfound
  refine ⟨explored, hexplored, hiff.trans ?_⟩
  simp only [hmem, and_imp]

/-- **What a branch asks for that can only be left by exits.** If a link was taken, is no exit
itself and is directly followed by exits only, then the branch behind it can be judged, and it is
explored exactly if every link that can be reached behind one of these exits was taken or is an
exit in its turn. -/
theorem isExplored_iff_behind_exits (h : ∀ l, ∃ b, play.isOffered l = .ok b) {l : s.LinkId}
    (htaken : play.taken.get l = true) (hexit : (s.link l).isExit = false) {source : s.PassageId}
    (honly : ∀ e, play.Continues source l e → (s.link e).isExit = true) :
    ∃ explored, play.isExplored l source = .ok explored ∧
      (explored = true ↔
        ∀ e c, play.Continues source l e → Relation.TransGen (play.Continues source) e c →
          c ≠ l → play.taken.get c = true ∨ (s.link c).isExit = true) := by
  obtain ⟨explored, hexplored, hiff⟩ := exists_isExplored_iff h l source
  refine ⟨explored, hexplored, ?_⟩
  rw [hiff, and_iff_right htaken, and_iff_right hexit]
  constructor
  · intro hall e c he hec hne
    exact hall c hne (.head he hec)
  · intro hbehind c hne hlc
    -- A way to the link begins with an exit: the link is that exit, or it lies behind it.
    obtain ⟨e, he, hec⟩ := Relation.TransGen.head'_iff.1 hlc
    rcases Relation.reflTransGen_iff_eq_or_transGen.1 hec with rfl | hec
    · exact .inr (honly c he)
    · exact hbehind e c he hec hne

end Play

/-! ### An office with one exit -/

/-- What is written of an office that can only be left for the street, where there is a shop. -/
def officeDraft : Draft where
  passages := [
    { title := "Hall", links := [⟨"Office", "Office", [], []⟩] },
    { title := "Office", links := [⟨"Leave", "Street", [], [Tag.exit]⟩] },
    { title := "Street", links := [⟨"Shop", "Shop", [], []⟩] },
    { title := "Shop", segments := [⟨"Closed.\n", []⟩] }]

/-- The office, the street and the shop. -/
def office : Story where
  title := ""
  passages := [⟨"Hall", "", [], [], false⟩, ⟨"Office", "", [], [], false⟩,
    ⟨"Street", "", [], [], false⟩, ⟨"Shop", "", [⟨"Closed.\n", []⟩], [], false⟩]
  links := [⟨0, 1, "Office", [], []⟩, ⟨1, 2, "Leave", [], [Tag.exit]⟩, ⟨2, 3, "Shop", [], []⟩]
  titles_nodup := by decide

namespace office

theorem ofDraft_officeDraft : Story.ofDraft officeDraft = .ok office := by
  with_unfolding_all rfl

/-- The hall, in front of the office. -/
def hall : office.PassageId := ⟨0, by decide⟩

/-- The link into the office. -/
def enter : office.LinkId := ⟨0, by decide⟩

/-- The link out of the office, into the street. -/
def leave : office.LinkId := ⟨1, by decide⟩

/-- The link from the street into the shop. -/
def visitShop : office.LinkId := ⟨2, by decide⟩

/-- The playthrough in which the office was entered and nothing else was done. -/
def inside : Play office :=
  (Play.follow enter {}).play

theorem isOffered_inside : ∀ l, ∃ b, inside.isOffered l = .ok b
  | ⟨0, _⟩ | ⟨1, _⟩ | ⟨2, _⟩ => ⟨true, rfl⟩

/-- The office can only be left by the exit. -/
theorem isExit_of_continues {e : office.LinkId} (h : inside.Continues hall enter e) :
    (office.link e).isExit = true := by
  obtain ⟨links, hlinks, hmem, -, -⟩ := h
  have hoffered : inside.offered (office.link enter).target = .ok [leave] := rfl
  obtain rfl := Except.ok.inj (hoffered.symm.trans hlinks)
  rw [List.mem_singleton.1 hmem]
  decide

/-- The shop lies behind the exit. -/
theorem transGen_enter_visitShop :
    Relation.TransGen (inside.Continues hall) enter visitShop := by
  have hleave : inside.Continues hall enter leave := ⟨[leave], rfl, by simp, by decide, by decide⟩
  have hshop : inside.Continues hall leave visitShop :=
    ⟨[visitShop], rfl, by simp, by decide, by decide⟩
  exact .tail (.single hleave) hshop

/-- The branch behind the link into the office asks for what lies behind the exit. -/
theorem isExplored_iff_behind_exits_enter :
    (∀ l, ∃ b, inside.isOffered l = .ok b) ∧ inside.taken.get enter = true ∧
    (office.link enter).isExit = false ∧
    (∀ e, inside.Continues hall enter e → (office.link e).isExit = true) ∧
    ∃ explored, inside.isExplored enter hall = .ok explored ∧
      (explored = true ↔
        ∀ e c, inside.Continues hall enter e → Relation.TransGen (inside.Continues hall) e c →
          c ≠ enter → inside.taken.get c = true ∨ (office.link c).isExit = true) :=
  ⟨isOffered_inside, by decide, by decide, fun _ => isExit_of_continues,
    Play.isExplored_iff_behind_exits isOffered_inside (by decide) (by decide)
      fun _ => isExit_of_continues⟩

/-- **An exit can keep the branch in front of it unexplored.** The link into the office was taken
and is no exit, and all that directly follows it is an exit; but behind that exit is the street,
where the link to the shop was not taken, and so the office is not explored. -/
theorem isExplored_enter_eq_false :
    Story.ofDraft officeDraft = .ok office ∧ (∀ l, ∃ b, inside.isOffered l = .ok b) ∧
    inside.taken.get enter = true ∧ (office.link enter).isExit = false ∧
    (∀ e, inside.Continues hall enter e → (office.link e).isExit = true) ∧
    inside.isExplored enter hall = .ok false := by
  refine ⟨ofDraft_officeDraft, isOffered_inside, by decide, by decide,
    fun _ => isExit_of_continues, ?_⟩
  obtain ⟨explored, hexplored, hiff⟩ := Play.exists_isExplored_iff isOffered_inside enter hall
  cases explored with
  | false => exact hexplored
  | true =>
    obtain ⟨-, -, hbehind⟩ := hiff.1 rfl
    exact absurd (hbehind visitShop (by decide) transGen_enter_visitShop) (by decide)

end office

end Skein
