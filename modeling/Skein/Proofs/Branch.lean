import Mathlib.Tactic.Choose
import Skein.Play.Branch
import Skein.Proofs.Search
import Skein.Proofs.Success

/-!
# Branches are what can be reached

The branch behind a link was described in words: the links that can be reached from its target
through links that are offered now, without links back and without links to the passage from which
the branch is seen. Here the words become a relation, `Play.Continues`, and the walk that lists a
branch is proved to list exactly the links that this relation leads to, whatever cycles there are.
The link itself is not listed, also where the branch leads back to it.

Offers are the only thing that can fail on the way, so the results are stated for playthroughs in
which every link is known to be offered or not.

## Main definitions

* `Play.Continues` — a link directly follows another in a branch

## Main results

* `Play.exists_offered_eq_ok` — where every link is judged, the offers of a passage can be listed
* `Play.exists_descendants_eq_ok` — a branch is listed without repetitions and completely
* `Play.descendants_and_isExplored` — the same together with what it means to be explored
-/

namespace Skein

namespace Play

variable {s : Story} {play : Play s}

/-- A link directly follows another one in a branch seen from `source`: it is offered where the
other one leads, it is no link back, and it does not lead to `source`. -/
def Continues (play : Play s) (source : s.PassageId) (l child : s.LinkId) : Prop :=
  ∃ links, play.offered (s.link l).target = .ok links ∧ child ∈ links ∧
    (s.link child).target ≠ source ∧ (s.link child).isBack = false

/-! ### Success -/

theorem exists_offered_eq_ok (h : ∀ l, ∃ b, play.isOffered l = .ok b) (p : s.PassageId) :
    ∃ links, play.offered p = .ok links :=
  ⟨_, select_eq_ok fun l _ => h l⟩

/-- The links that directly follow a link can be listed. -/
theorem exists_continuations_eq_ok (h : ∀ l, ∃ b, play.isOffered l = .ok b) (source : s.PassageId)
    (l : s.LinkId) :
    ∃ children, play.continuations source l = .ok children ∧
      ∀ child, child ∈ children ↔ play.Continues source l child := by
  obtain ⟨links, hlinks⟩ := exists_offered_eq_ok h (s.link l).target
  refine ⟨_, bind_eq_ok.2 ⟨links, hlinks, rfl⟩, fun child => ?_⟩
  rw [List.mem_filter, Bool.and_eq_true, decide_eq_true_eq, Bool.not_eq_true']
  constructor
  · rintro ⟨hmem, htarget, hback⟩
    exact ⟨links, hlinks, hmem, htarget, hback⟩
  · rintro ⟨links', hlinks', hmem, htarget, hback⟩
    obtain rfl := Except.ok.inj (hlinks.symm.trans hlinks')
    exact ⟨hmem, htarget, hback⟩

/-! ### Branches -/

/-- **A branch is listed without repetitions and completely**: what is listed is what the relation
leads to, apart from the link that the branch is behind. -/
theorem exists_descendants_eq_ok (h : ∀ l, ∃ b, play.isOffered l = .ok b) (l : s.LinkId)
    (source : s.PassageId) :
    ∃ found, play.descendants l source = .ok found ∧ found.Nodup ∧
      ∀ c, c ∈ found ↔ c ≠ l ∧ Relation.TransGen (play.Continues source) l c := by
  choose next hnext hmem using exists_continuations_eq_ok h source
  have hrel : (fun b c => c ∈ next b) = play.Continues source := by
    funext b c
    exact propext (hmem b c)
  have hwalk : walk next [l] s.linkIds =
      l :: walk next (next l ++ []) (s.linkIds.erase l) :=
    walk_cons_of_mem (Story.mem_linkIds l)
  have hnodup : (walk next [l] s.linkIds).Nodup := nodup_walk (List.nodup_finRange _)
  have hreach : ∀ c, c ∈ walk next [l] s.linkIds ↔
      Relation.ReflTransGen (play.Continues source) l c := by
    intro c
    rw [mem_walk_iff Story.mem_linkIds, hrel]
    exact ⟨fun ⟨start, hstart, hc⟩ => List.mem_singleton.1 hstart ▸ hc,
      fun hc => ⟨l, List.mem_singleton_self l, hc⟩⟩
  rw [hwalk] at hnodup
  obtain ⟨hl, hfound⟩ := List.nodup_cons.1 hnodup
  refine ⟨_, bind_eq_ok.2 ⟨_, explore_eq_ok hnext _ _, congrArg (Except.ok ∘ List.tail) hwalk⟩,
    hfound, fun c => ?_⟩
  have hc := hreach c
  rw [hwalk, List.mem_cons, Relation.reflTransGen_iff_eq_or_transGen] at hc
  constructor
  · intro hmem
    have hne : c ≠ l := fun heq => hl (heq ▸ hmem)
    exact ⟨hne, (hc.1 (.inr hmem)).resolve_left hne⟩
  · rintro ⟨hne, htrans⟩
    exact (hc.2 (.inr htrans)).resolve_left hne

/-- A branch is explored if its link was taken, is no exit, and all that is listed was taken or is
an exit. -/
theorem isExplored_eq_ok {l : s.LinkId} {source : s.PassageId} {found : List s.LinkId}
    (h : play.descendants l source = .ok found) :
    ∃ explored, play.isExplored l source = .ok explored ∧
      (explored = true ↔ play.taken.get l = true ∧ (s.link l).isExit = false ∧
        ∀ c ∈ found, play.taken.get c = true ∨ (s.link c).isExit = true) := by
  rw [isExplored]
  cases htaken : play.taken.get l with
  | false => exact ⟨false, rfl, by simp⟩
  | true =>
    cases hexit : (s.link l).isExit with
    | true => exact ⟨false, rfl, by simp⟩
    | false =>
      refine ⟨_, bind_eq_ok.2 ⟨found, h, rfl⟩, ?_⟩
      simp

/-- **Listing a branch and judging whether it is explored.** If every link is known to be offered
or not, both succeed for every link and every passage from which the branch may be seen. -/
theorem descendants_and_isExplored (h : ∀ l, ∃ b, play.isOffered l = .ok b) (l : s.LinkId)
    (source : s.PassageId) :
    ∃ found, play.descendants l source = .ok found ∧ found.Nodup ∧
      (∀ c, c ∈ found ↔ c ≠ l ∧ Relation.TransGen (play.Continues source) l c) ∧
      ∃ explored, play.isExplored l source = .ok explored ∧
        (explored = true ↔ play.taken.get l = true ∧ (s.link l).isExit = false ∧
          ∀ c, c ≠ l → Relation.TransGen (play.Continues source) l c →
            play.taken.get c = true ∨ (s.link c).isExit = true) := by
  obtain ⟨found, hfound, hnodup, hmem⟩ := exists_descendants_eq_ok h l source
  obtain ⟨explored, hexplored, hiff⟩ := isExplored_eq_ok hfound
  refine ⟨found, hfound, hnodup, hmem, explored, hexplored, ?_⟩
  rw [hiff]
  refine and_congr_right fun _ => and_congr_right fun _ => forall_congr' fun c => ?_
  rw [hmem, and_imp]

/-- Three passages in a ring, with a second link along one side and a link that leads nowhere
else. -/
def ring : Story where
  title := ""
  passages := [⟨"Gate", "", [], [], false⟩, ⟨"Wall", "", [], [], false⟩,
    ⟨"Tower", "", [], [], false⟩]
  links := [⟨0, 1, "on", [], []⟩, ⟨1, 2, "on", [], []⟩, ⟨1, 2, "run", [], []⟩,
    ⟨2, 2, "wait", [], []⟩, ⟨2, 0, "on", [], []⟩]
  titles_nodup := by decide

/-- The link out of the first passage. -/
def ring.leave : ring.LinkId := ⟨0, by decide⟩

/-- The first passage. -/
def ring.gate : ring.PassageId := ⟨0, by decide⟩

/-- The ring before anything was visited. -/
def ring.opening : Play ring := {}

theorem ring.isOffered_opening : ∀ l, ∃ b, ring.opening.isOffered l = .ok b
  | ⟨0, _⟩ | ⟨1, _⟩ | ⟨2, _⟩ | ⟨3, _⟩ | ⟨4, _⟩ => ⟨true, rfl⟩

/-- In the ring, the branch behind the first link can be listed and judged. -/
theorem ring.descendants_and_isExplored_leave :
    (∀ l, ∃ b, ring.opening.isOffered l = .ok b) ∧
    ∃ found, ring.opening.descendants ring.leave ring.gate = .ok found ∧ found.Nodup ∧
      (∀ c, c ∈ found ↔
        c ≠ ring.leave ∧ Relation.TransGen (ring.opening.Continues ring.gate) ring.leave c) ∧
      ∃ explored, ring.opening.isExplored ring.leave ring.gate = .ok explored ∧
        (explored = true ↔
          ring.opening.taken.get ring.leave = true ∧ (ring.link ring.leave).isExit = false ∧
          ∀ c, c ≠ ring.leave →
            Relation.TransGen (ring.opening.Continues ring.gate) ring.leave c →
              ring.opening.taken.get c = true ∨ (ring.link c).isExit = true) :=
  ⟨ring.isOffered_opening,
    descendants_and_isExplored ring.isOffered_opening ring.leave ring.gate⟩

end Play

end Skein
