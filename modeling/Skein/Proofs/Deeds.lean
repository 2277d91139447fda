import Skein.Proofs.Notices

/-!
# What a run consists of

Most of what a host does leaves no traces: it asks, or it moves a cursor. What is left of a run is a
list of deeds, each of which either enters a passage or changes the player from outside. The other
operations that have an effect are these two in disguise: to take a link, to begin a dialog and to
confirm one is to enter a passage, and an effect that belongs to no passage is a change.

The deeds of a run are all that has to be known of it if one asks which passages were visited and
what has become of the player: done on their own, in the same order, they lead to the same marks and
to the same player, failed visits included (`Play.after_agrees`). Links leave marks of their own,
which no deed looks at.

## Main definitions

* `Deed` — a passage is entered, or the player is changed from outside
* `Operation.deed?` — the deed that an operation does, if it does any
* `Play.deeds` — the deeds of a run
* `Play.Agrees` — the same passages were visited, and the player is the same

## Main results

* `Play.performAll_frame` — effects concern the player alone
* `Operation.run_agrees` — an operation is the deed that it does
* `Play.after_agrees` — a run is the list of its deeds
* `Play.get_visited_run` — the visited passages are those that were entered
-/

namespace Skein

variable {s : Story}

/-- What a host makes happen to the passages or to the player. -/
inductive Deed (s : Story) where
  /-- A passage is entered. -/
  | enter (p : s.PassageId)
  /-- The player is changed from outside. -/
  | change (c : Change)
  deriving DecidableEq

/-- The playthrough after a deed. -/
def Deed.apply (play : Play s) : Deed s → Play s
  | enter p => (play.visit p).play
  | change c => (play.change c).play

/-- The deed that an operation does, if it does any. -/
def Operation.deed? (op : Operation s) (play : Play s) : Option (Deed s) :=
  match op with
  | visit p => some (.enter p)
  | follow l => some (.enter (s.link l).target)
  | begin => play.start.map .enter
  | confirm d => (d.selected? play).map fun l => .enter (s.link l).target
  | change c => some (.change c)
  | perform e => e.change.toOption.map .change
  | _ => none

namespace Play

/-- The deeds of a run, in order. -/
def deeds : List (Operation s) → Play s → List (Deed s)
  | [], _ => []
  | op :: ops, play => (op.deed? play).toList ++ deeds ops (op.run play).play

/-- The same passages were visited, and the player is the same. -/
structure Agrees (play other : Play s) : Prop where
  visited : play.visited = other.visited
  player : play.player = other.player

theorem Agrees.refl (play : Play s) : play.Agrees play :=
  ⟨rfl, rfl⟩

theorem Agrees.trans {first second third : Play s} (h : first.Agrees second)
    (h' : second.Agrees third) : first.Agrees third :=
  ⟨h.visited.trans h'.visited, h.player.trans h'.player⟩

/-! ### Effects concern the player alone -/

theorem change_frame (c : Change) (play : Play s) :
    (play.change c).play = { play with player := (play.change c).play.player } := by
  rw [change]
  cases play.player.change c with
  | error e => rfl
  | ok q => rfl

theorem perform_frame (e : Effect) (play : Play s) :
    (play.perform e).play = { play with player := (play.perform e).play.player } := by
  rw [perform]
  cases e.change with
  | error err => rfl
  | ok c => exact change_frame c play

theorem performAll_frame (effects : List Effect) (play : Play s) :
    (performAll effects play).play =
      { play with player := (performAll effects play).play.player } := by
  induction effects generalizing play with
  | nil => rfl
  | cons e rest ih =>
    have hfirst := perform_frame e play
    rw [performAll, Outcome.andThen]
    cases (play.perform e).result with
    | error err => exact hfirst
    | ok done =>
      have hrest := ih (play.perform e).play
      rw [hfirst] at hrest ⊢
      exact hrest

theorem visited_change (c : Change) (play : Play s) :
    (play.change c).play.visited = play.visited := by
  rw [change_frame]

theorem visited_visit (p : s.PassageId) (play : Play s) :
    (play.visit p).play.visited = (play.markVisited p).visited := by
  rw [visit, performAll_frame]

theorem visited_follow (l : s.LinkId) (play : Play s) :
    (play.follow l).play.visited = (play.markVisited (s.link l).target).visited :=
  visited_visit (s.link l).target (play.markTaken l)

/-! ### Deeds -/

/-- A visit through a link is the visit, apart from the mark of the link. -/
theorem follow_agrees (l : s.LinkId) (play : Play s) :
    (play.follow l).play.Agrees (play.visit (s.link l).target).play :=
  ⟨(visited_follow l play).trans (visited_visit _ play).symm,
    (follow_replays l play).player.trans (visit_replays _ play).player.symm⟩

end Play

namespace Deed

/-- What a deed does depends on nothing but the marks of the passages and the player. -/
theorem apply_agrees {play other : Play s} (h : play.Agrees other) (d : Deed s) :
    (d.apply play).Agrees (d.apply other) := by
  cases d with
  | enter p =>
    refine ⟨?_, ?_⟩
    · rw [apply, apply, Play.visited_visit, Play.visited_visit]
      exact congrArg (·.set p.val true) h.visited
    · rw [apply, apply, (Play.visit_replays p play).player, (Play.visit_replays p other).player,
        h.player]
  | change c =>
    refine ⟨?_, ?_⟩
    · rw [apply, apply, Play.visited_change, Play.visited_change]
      exact h.visited
    · rw [apply, apply, (Play.change_replays c play).player, (Play.change_replays c other).player,
        h.player]

theorem foldl_apply_agrees {play other : Play s} (h : play.Agrees other) (ds : List (Deed s)) :
    (ds.foldl apply play).Agrees (ds.foldl apply other) := by
  induction ds generalizing play other with
  | nil => exact h
  | cons d ds ih => exact ih (apply_agrees h d)

/-- Only the passage that is entered is marked. -/
theorem get_visited_apply (d : Deed s) (play : Play s) (p : s.PassageId) :
    (d.apply play).visited.get p = (decide (.enter p = d) || play.visited.get p) := by
  cases d with
  | enter q =>
    rw [apply, Play.visited_visit, Play.get_markVisited]
    simp only [enter.injEq]
  | change c =>
    rw [apply, Play.visited_change, decide_eq_false (by simp), Bool.false_or]

theorem get_visited_foldl (ds : List (Deed s)) (play : Play s) (p : s.PassageId) :
    (ds.foldl apply play).visited.get p = true ↔
      .enter p ∈ ds ∨ play.visited.get p = true := by
  induction ds generalizing play with
  | nil => simp
  | cons d ds ih =>
    rw [List.foldl_cons, ih, get_visited_apply, Bool.or_eq_true, decide_eq_true_eq, List.mem_cons,
      or_left_comm, or_assoc]

end Deed

/-! ### Runs -/

/-- **An operation is the deed that it does**, as far as passages and the player are concerned. -/
theorem Operation.run_agrees (op : Operation s) (play : Play s) :
    (op.run play).play.Agrees ((op.deed? play).toList.foldl Deed.apply play) := by
  cases op with
  | visit p => exact .refl _
  | follow l => exact play.follow_agrees l
  | change c => exact .refl _
  | perform e =>
    rw [run, deed?, Play.perform]
    cases e.change with
    | error err => exact .refl _
    | ok c => exact .refl _
  | begin =>
    rw [run, deed?, Dialog.begin]
    cases play.start with
    | none => exact .refl _
    | some p => exact .refl _
  | confirm d =>
    rw [run, deed?, Dialog.confirm, Dialog.selected?]
    cases play.offered d.passage with
    | error e => exact .refl _
    | ok links =>
      simp only [Except.toOption, Option.bind_some]
      cases links[d.cursor]? with
      | none => exact .refl _
      | some l => exact play.follow_agrees l
  | setStart title =>
    rw [run, Play.setStart]
    cases s.find title with
    | error e => exact .refl _
    | ok p => exact ⟨rfl, rfl⟩
  | listen => exact ⟨rfl, rfl⟩
  | _ => exact .refl _

namespace Play

/-- **A run is the list of its deeds**, as far as passages and the player are concerned. -/
theorem after_agrees (ops : List (Operation s)) (play : Play s) :
    (play.after ops).Agrees ((deeds ops play).foldl Deed.apply play) := by
  induction ops generalizing play with
  | nil => exact .refl _
  | cons op ops ih =>
    rw [after_cons, deeds, List.foldl_append]
    exact (ih _).trans (Deed.foldl_apply_agrees (op.run_agrees play) _)

/-- A passage is marked after an operation if it was entered by it, or marked before. -/
theorem get_visited_run (op : Operation s) (play : Play s) (p : s.PassageId) :
    (op.run play).play.visited.get p = true ↔
      op.deed? play = some (.enter p) ∨ play.visited.get p = true := by
  rw [(op.run_agrees play).visited, Deed.get_visited_foldl, Option.mem_toList]

end Play

end Skein
