import Skein.Change
import Skein.Story

/-!
# Playing a story

A playthrough adds to a story what a reader has done so far: which passages were visited, which
links were taken, and what became of the player. Moves are functions from playthroughs to
outcomes; an outcome holds the playthrough even if the move failed, because what happened before
the failure stays.

Listeners are told the inventory after every change that concerns it. All listeners hear the same,
so their number is all that has to be known about them.

## Main definitions

* `Play` — the state of a playthrough
* `Outcome` — the result of a move, the playthrough after it, and what listeners heard
* `Play.change`, `Play.perform` — a change of the player, and an effect
* `Play.visit` — enter a passage: mark it and let its effects take place
* `Play.follow` — take a link: mark it and enter its target

## Main results

* `Play.get_markVisited`, `Play.get_markTaken` — only what is marked is marked
-/

namespace Skein

/-- The passage with the given title, or the error that there is none. -/
def Story.find (s : Story) (title : String) : Except PlayError s.PassageId :=
  match s.passageId? title with
  | some p => .ok p
  | none => .error (.passageNotFound title)

/-- **The state of a playthrough.** -/
structure Play (s : Story) where
  /-- The passage in which the story begins, if one is set. -/
  start : Option s.PassageId := none
  /-- What the player owns and knows. -/
  player : Player := {}
  /-- Which passages were visited. -/
  visited : Vector Bool s.passages.length := Vector.replicate _ false
  /-- Which links were taken. -/
  taken : Vector Bool s.links.length := Vector.replicate _ false
  /-- How many listeners are told of changes of the inventory. -/
  listeners : Nat := 0

/-- What a move leaves behind. -/
structure Outcome (s : Story) (α : Type) where
  /-- The result of the move, or the reason why it failed. -/
  result : Except PlayError α
  /-- The playthrough after the move. -/
  play : Play s
  /-- What each listener heard during the move, in order. -/
  notices : List Inventory

namespace Outcome

variable {s : Story} {α β : Type}

/-- The outcome of a move and, if it succeeds, of a second one after it. -/
def andThen (first : Outcome s α) (next : α → Play s → Outcome s β) : Outcome s β :=
  match first.result with
  | .error e => ⟨.error e, first.play, first.notices⟩
  | .ok a =>
    let second := next a first.play
    ⟨second.result, second.play, first.notices ++ second.notices⟩

/-- The same outcome with another result in case of success. -/
def map (f : α → β) (o : Outcome s α) : Outcome s β :=
  ⟨o.result.map f, o.play, o.notices⟩

end Outcome

namespace Play

variable {s : Story}

/-- What is heard of the inventory: nothing where nobody listens. -/
def announce (play : Play s) (inventory : Inventory) : List Inventory :=
  if play.listeners = 0 then [] else [inventory]

/-- A change of the player. -/
def change (c : Change) (play : Play s) : Outcome s Unit :=
  match play.player.change c with
  | .error e => ⟨.error e, play, []⟩
  | .ok player =>
    ⟨.ok (), { play with player := player },
      if c.isAnnounced play.player then play.announce player.inventory else []⟩

/-- An effect: the change it stands for, if its value can be read. -/
def perform (e : Effect) (play : Play s) : Outcome s Unit :=
  match e.change with
  | .error err => ⟨.error err, play, []⟩
  | .ok c => play.change c

/-- Effects one after the other, up to the first that fails. -/
def performAll : List Effect → Play s → Outcome s Unit
  | [], play => ⟨.ok (), play, []⟩
  | e :: rest, play => (play.perform e).andThen fun _ => performAll rest

/-- The playthrough with a passage marked as visited. -/
def markVisited (p : s.PassageId) (play : Play s) : Play s :=
  { play with visited := play.visited.set p true }

/-- The playthrough with a link marked as taken. -/
def markTaken (l : s.LinkId) (play : Play s) : Play s :=
  { play with taken := play.taken.set l true }

/-- Marks that are set stay set, and one more is. -/
theorem get_set_true {n : Nat} (marks : Vector Bool n) (i j : Fin n) :
    (marks.set i true).get j = (decide (j = i) || marks.get j) := by
  show (marks.set i.val true)[j.val] = (decide (j = i) || marks[j.val])
  rw [Vector.getElem_set]
  by_cases h : j = i
  · rw [if_pos (congrArg Fin.val h.symm), decide_eq_true h, Bool.true_or]
  · rw [if_neg (Fin.val_ne_of_ne (Ne.symm h)), decide_eq_false h, Bool.false_or]

theorem get_markVisited (p q : s.PassageId) (play : Play s) :
    (play.markVisited p).visited.get q = (decide (q = p) || play.visited.get q) :=
  get_set_true _ _ _

theorem get_markTaken (e l : s.LinkId) (play : Play s) :
    (play.markTaken e).taken.get l = (decide (l = e) || play.taken.get l) :=
  get_set_true _ _ _

/-- **Enter a passage**: mark it as visited and let its effects take place, on every visit anew. The
first effect that fails ends the visit; the mark and the effects before it stay. -/
def visit (p : s.PassageId) (play : Play s) : Outcome s Unit :=
  (play.markVisited p).performAll (s.passage p).effects

/-- **Take a link**: mark it as taken and enter its target, which is the result. -/
def follow (l : s.LinkId) (play : Play s) : Outcome s s.PassageId :=
  let target := (s.link l).target
  ((play.markTaken l).visit target).map fun _ => target

/-- Let the story begin in the passage with the given title. -/
def setStart (title : String) (play : Play s) : Except PlayError (Play s) :=
  (s.find title).map fun p => { play with start := some p }

end Play

end Skein
