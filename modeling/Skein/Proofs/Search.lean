import Mathlib.Logic.Relation
import Skein.Proofs.Success
import Skein.Search

/-!
# What a depth-first walk finds

A walk that meets every node at most once stops at nodes it has met before, on whatever way it came
to them. That it misses nothing by this is the point of the theory here: what a walk finds is closed
under successors, up to the nodes that had been met before it began (`mem_walk_of_next`), and so a
walk that begins with nothing met finds everything that can be reached.

All inductions follow the recursion of `explore`: on a node that was not met, on a node that was,
and on an empty list of waiting nodes. The successors are pure here; `explore_pure` carries the
results over to walks along successors that might have failed. Where they do fail for some nodes,
a walk succeeds if it meets none of these nodes (`explore_eq_ok_iff`), and so fewer successors can
only take failures away.

## Main definitions

* `walk` — the nodes met by a depth-first walk along pure successors
* `computed` — the successors of a node, as far as they can be computed

## Main results

* `nodup_walk` — no node is listed twice
* `mem_walk_iff` — a walk with nothing met before finds the nodes that can be reached
* `explore_eq_ok_iff` — when a walk along successors that may fail succeeds
* `exists_explore_subset` — with fewer successors less is found, and nothing new fails
-/

namespace Skein

variable {α : Type} [DecidableEq α] {next : α → List α}

/-- The nodes met by a depth-first walk along successors that are just there. -/
def walk (next : α → List α) (pending fresh : List α) : List α :=
  (explore (m := Id) (fun a => pure (next a)) pending fresh).run

@[simp] theorem walk_nil (fresh : List α) : walk next [] fresh = [] := by
  rw [walk, explore_nil]
  rfl

theorem walk_cons_of_mem {node : α} {rest fresh : List α} (h : node ∈ fresh) :
    walk next (node :: rest) fresh = node :: walk next (next node ++ rest) (fresh.erase node) := by
  rw [walk, explore_cons_of_mem h]
  rfl

theorem walk_cons_of_not_mem {node : α} {rest fresh : List α} (h : node ∉ fresh) :
    walk next (node :: rest) fresh = walk next rest fresh := by
  rw [walk, explore_cons_of_not_mem h]
  rfl

/-- A walk along successors that can be computed lists what the walk along them lists. -/
theorem explore_eq_ok {ε : Type} {successors : α → Except ε (List α)}
    (h : ∀ a, successors a = .ok (next a)) (pending fresh : List α) :
    explore successors pending fresh = .ok (walk next pending fresh) := by
  obtain rfl : successors = fun a => pure (next a) := funext h
  exact explore_pure next pending fresh

/-! ### Each node once -/

/-- Only nodes that were not met before are listed. -/
theorem mem_of_mem_walk {a : α} {pending fresh : List α} (h : a ∈ walk next pending fresh) :
    a ∈ fresh := by
  induction pending, fresh using explore.induct with
  | case1 fresh => simp at h
  | case2 fresh node rest hnode ih =>
    rw [walk_cons_of_mem hnode] at h
    rcases List.mem_cons.1 h with rfl | h
    · exact hnode
    · exact List.mem_of_mem_erase (ih (next node) h)
  | case3 fresh node rest hnode ih =>
    rw [walk_cons_of_not_mem hnode] at h
    exact ih h

/-- **No node is listed twice.** -/
theorem nodup_walk {pending fresh : List α} (hfresh : fresh.Nodup) :
    (walk next pending fresh).Nodup := by
  induction pending, fresh using explore.induct with
  | case1 fresh => simp
  | case2 fresh node rest hnode ih =>
    rw [walk_cons_of_mem hnode, List.nodup_cons]
    exact ⟨fun h => hfresh.not_mem_erase (mem_of_mem_walk h), ih (next node) (hfresh.erase node)⟩
  | case3 fresh node rest hnode ih =>
    rw [walk_cons_of_not_mem hnode]
    exact ih hfresh

/-! ### Everything that can be reached -/

/-- What is listed can be reached from a node that was waiting. -/
theorem exists_reflTransGen_of_mem_walk {a : α} {pending fresh : List α}
    (h : a ∈ walk next pending fresh) :
    ∃ start ∈ pending, Relation.ReflTransGen (fun b c => c ∈ next b) start a := by
  induction pending, fresh using explore.induct with
  | case1 fresh => simp at h
  | case2 fresh node rest hnode ih =>
    rw [walk_cons_of_mem hnode] at h
    rcases List.mem_cons.1 h with rfl | h
    · exact ⟨a, List.mem_cons_self, .refl⟩
    · obtain ⟨start, hstart, hreach⟩ := ih (next node) h
      rcases List.mem_append.1 hstart with hnext | hrest
      · exact ⟨node, List.mem_cons_self, .head hnext hreach⟩
      · exact ⟨start, List.mem_cons_of_mem node hrest, hreach⟩
  | case3 fresh node rest hnode ih =>
    rw [walk_cons_of_not_mem hnode] at h
    obtain ⟨start, hstart, hreach⟩ := ih h
    exact ⟨start, List.mem_cons_of_mem node hstart, hreach⟩

/-- A waiting node is listed, unless it was met before. -/
theorem mem_walk_of_mem_pending {a : α} {pending fresh : List α} (hpending : a ∈ pending)
    (hfresh : a ∈ fresh) : a ∈ walk next pending fresh := by
  induction pending, fresh using explore.induct with
  | case1 fresh => cases hpending
  | case2 fresh node rest hnode ih =>
    rw [walk_cons_of_mem hnode]
    by_cases heq : a = node
    · rw [heq]
      exact List.mem_cons_self
    · have hrest := (List.mem_cons.1 hpending).resolve_left heq
      exact List.mem_cons_of_mem node <|
        ih (next node) (List.mem_append_right _ hrest) ((List.mem_erase_of_ne heq).2 hfresh)
  | case3 fresh node rest hnode ih =>
    rw [walk_cons_of_not_mem hnode]
    have hne : a ≠ node := fun heq => hnode (heq ▸ hfresh)
    exact ih ((List.mem_cons.1 hpending).resolve_left hne) hfresh

/-- **What is listed is closed under successors**, up to the nodes met before. -/
theorem mem_walk_of_next {a b : α} {pending fresh : List α} (h : a ∈ walk next pending fresh)
    (hnext : b ∈ next a) (hfresh : b ∈ fresh) : b ∈ walk next pending fresh := by
  induction pending, fresh using explore.induct with
  | case1 fresh => simp at h
  | case2 fresh node rest hnode ih =>
    rw [walk_cons_of_mem hnode] at h ⊢
    by_cases heq : b = node
    · rw [heq]
      exact List.mem_cons_self
    · have hleft : b ∈ fresh.erase node := (List.mem_erase_of_ne heq).2 hfresh
      refine List.mem_cons_of_mem node ?_
      rcases List.mem_cons.1 h with rfl | h
      · exact mem_walk_of_mem_pending (List.mem_append_left rest hnext) hleft
      · exact ih (next node) h hleft
  | case3 fresh node rest hnode ih =>
    rw [walk_cons_of_not_mem hnode] at h ⊢
    exact ih h hfresh

/-- **A walk with nothing met before finds the nodes that can be reached.** -/
theorem mem_walk_iff {a : α} {pending fresh : List α} (hfresh : ∀ b, b ∈ fresh) :
    a ∈ walk next pending fresh ↔
      ∃ start ∈ pending, Relation.ReflTransGen (fun b c => c ∈ next b) start a := by
  constructor
  · exact exists_reflTransGen_of_mem_walk
  · rintro ⟨start, hstart, hreach⟩
    induction hreach with
    | refl => exact mem_walk_of_mem_pending hstart (hfresh start)
    | tail _ hstep ih => exact mem_walk_of_next ih hstep (hfresh _)

/-! ### Successors that may fail -/

section

variable {ε : Type}

/-- The successors of a node; none if they cannot be computed. -/
def computed {α : Type} (successors : α → Except ε (List α)) (a : α) : List α :=
  (successors a).toOption.getD []

theorem computed_of_ok {α : Type} {successors : α → Except ε (List α)} {a : α} {l : List α}
    (h : successors a = .ok l) : computed successors a = l := by
  rw [computed, h]
  rfl

variable {successors fewer : α → Except ε (List α)} {pending fresh met : List α}

/-- A walk meets a new node and goes on with its successors. -/
theorem explore_cons_eq_ok {node : α} {rest next found : List α} (hnode : node ∈ fresh)
    (hnext : successors node = .ok next)
    (hfound : explore successors (next ++ rest) (fresh.erase node) = .ok found) :
    explore successors (node :: rest) fresh = .ok (node :: found) := by
  rw [explore_cons_of_mem hnode]
  exact bind_eq_ok.2 ⟨next, hnext, bind_eq_ok.2 ⟨found, hfound, rfl⟩⟩

/-- **A walk succeeds if the successors of every node that it meets can be computed**, and then it
lists what the walk along them lists. -/
theorem explore_eq_ok_iff :
    explore successors pending fresh = .ok met ↔
      met = walk (computed successors) pending fresh ∧ ∀ a ∈ met, ∃ l, successors a = .ok l := by
  induction pending, fresh using explore.induct generalizing met with
  | case1 fresh =>
    rw [explore_nil, walk_nil]
    constructor
    · intro h
      obtain rfl := Except.ok.inj h
      exact ⟨rfl, List.forall_mem_nil _⟩
    · rintro ⟨rfl, -⟩
      rfl
  | case2 fresh node rest hnode ih =>
    rw [walk_cons_of_mem hnode]
    constructor
    · intro h
      rw [explore_cons_of_mem hnode] at h
      obtain ⟨next, hnext, hrest⟩ := bind_eq_ok.1 h
      obtain ⟨found, hfound, hmet⟩ := bind_eq_ok.1 hrest
      obtain rfl := Except.ok.inj hmet
      obtain ⟨hwalk, hall⟩ := (ih next).1 hfound
      rw [computed_of_ok hnext, ← hwalk]
      exact ⟨rfl, List.forall_mem_cons.2 ⟨⟨next, hnext⟩, hall⟩⟩
    · rintro ⟨rfl, h⟩
      obtain ⟨⟨next, hnext⟩, hall⟩ := List.forall_mem_cons.1 h
      rw [computed_of_ok hnext] at hall ⊢
      exact explore_cons_eq_ok hnode hnext ((ih next).2 ⟨rfl, hall⟩)
  | case3 fresh node rest hnode ih =>
    rw [explore_cons_of_not_mem hnode, walk_cons_of_not_mem hnode]
    exact ih

/-- **With fewer successors less is found, and nothing new fails**: where a walk with nothing met
before succeeds, so does one along some of the successors, and it finds nothing else. -/
theorem exists_explore_subset (hfresh : ∀ b, b ∈ fresh)
    (hfewer : ∀ a l, successors a = .ok l → ∃ part, fewer a = .ok part ∧ part ⊆ l)
    (h : explore successors pending fresh = .ok met) :
    ∃ found, explore fewer pending fresh = .ok found ∧ found ⊆ met := by
  obtain ⟨rfl, hok⟩ := explore_eq_ok_iff.1 h
  -- On the way along the fewer successors every node is one that the walk along all of them met, so
  -- its successors could be computed there, and those that are left are among them.
  have hsubset :
      walk (computed fewer) pending fresh ⊆ walk (computed successors) pending fresh := by
    intro a ha
    obtain ⟨start, hstart, hreach⟩ := exists_reflTransGen_of_mem_walk ha
    clear ha
    induction hreach with
    | refl => exact mem_walk_of_mem_pending hstart (hfresh start)
    | @tail b c _ hstep ih =>
      obtain ⟨l, hl⟩ := hok b ih
      obtain ⟨part, hpart, hsub⟩ := hfewer b l hl
      rw [computed_of_ok hpart] at hstep
      refine mem_walk_of_next ih ?_ (hfresh c)
      rw [computed_of_ok hl]
      exact hsub hstep
  refine ⟨_, explore_eq_ok_iff.2 ⟨rfl, fun a ha => ?_⟩, hsubset⟩
  obtain ⟨l, hl⟩ := hok a (hsubset ha)
  obtain ⟨part, hpart, -⟩ := hfewer a l hl
  exact ⟨part, hpart⟩

end

end Skein
