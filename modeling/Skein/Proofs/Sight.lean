import Skein.Dialog
import Skein.Play.Branch
import Skein.Proofs.Holdings

/-!
# What conditions can see

Conditions ask for the balance, for the names of items and for facts. How many items of a name are
held, and in which order the names were acquired, they do not see. Besides conditions, only the
marks of one-time passages decide what is offered; other marks of passages, and all marks of links,
are kept for hosts. So two playthroughs that resemble each other in what can be seen show the same
texts and the same options, and lead to the same branches. Errors are no exception: a threshold
that is no integer is met in both playthroughs, or the judgement ends before it in both.

The marks of links are looked at by one query alone, which asks whether a branch is explored.

## Main definitions

* `Player.Resembles`, `Play.Resembles` — no condition sees a difference, and the same one-time
  passages are used up

## Main results

* `Condition.allHold_congr` — conditions see nothing else of the player
* `Play.Resembles.isOffered` — offers depend on nothing else
* `Play.view_eq_of_resembles` — all of the queries give the same answers
-/

namespace Skein

/-- No condition sees a difference between two players. -/
structure Player.Resembles (p q : Player) : Prop where
  money : p.money = q.money
  /-- The same items are held, in whatever number and order. -/
  items : ∀ name, name ∈ p.items.map Item.name ↔ name ∈ q.items.map Item.name
  facts : ∀ fact, fact ∈ p.facts ↔ fact ∈ q.facts

namespace Player.Resembles

variable {p q : Player}

theorem hasItem (h : p.Resembles q) (name : String) : p.hasItem name = q.hasItem name := by
  rw [Bool.eq_iff_iff]
  exact Items.hasName_iff.trans ((h.items name).trans Items.hasName_iff.symm)

theorem hasFact (h : p.Resembles q) (fact : String) : p.hasFact fact = q.hasFact fact := by
  rw [Bool.eq_iff_iff]
  simp [Player.hasFact, h.facts fact]

end Player.Resembles

/-! ### Conditions -/

namespace Condition

variable {p q : Player}

theorem answer_congr (h : p.Resembles q) (c : Condition) : c.answer p = c.answer q := by
  rw [answer, answer, h.hasItem, h.hasFact, h.money]

theorem test_congr (h : p.Resembles q) (c : Condition) : c.test p = c.test q := by
  rw [test, test, answer_congr h]

/-- **Conditions see nothing else of the player**, also where they cannot be judged. -/
theorem allHold_congr (h : p.Resembles q) (conditions : List Condition) :
    allHold conditions p = allHold conditions q := by
  induction conditions with
  | nil => rfl
  | cons c rest ih => rw [allHold, allHold, test_congr h, ih]

end Condition

namespace Play

variable {s : Story} {play other : Play s}

/-- No condition sees a difference between two playthroughs, and the same one-time passages are used
up in them. -/
structure Resembles (play other : Play s) : Prop where
  player : play.player.Resembles other.player
  usedUp : ∀ p, (s.passage p).isOneTime = true → play.visited.get p = other.visited.get p

namespace Resembles

/-! ### Texts and offers -/

theorem content (h : play.Resembles other) : play.content = other.content := by
  funext p
  have hshown : (fun segment : Segment => Condition.allHold segment.conditions play.player) =
      fun segment => Condition.allHold segment.conditions other.player := by
    funext segment
    exact Condition.allHold_congr h.player segment.conditions
  rw [Play.content, Play.content, hshown]

/-- **Offers depend on what can be seen.** Whether the target of a link was visited counts only if
it is a one-time passage. -/
theorem isOffered (h : play.Resembles other) : play.isOffered = other.isOffered := by
  funext l
  have hused : ((s.passage (s.link l).target).isOneTime && play.visited.get (s.link l).target) =
      ((s.passage (s.link l).target).isOneTime && other.visited.get (s.link l).target) := by
    cases honce : (s.passage (s.link l).target).isOneTime with
    | false => rfl
    | true => rw [h.usedUp _ honce]
  rw [Play.isOffered, Play.isOffered, hused, Condition.allHold_congr h.player]

theorem offered (h : play.Resembles other) : play.offered = other.offered := by
  funext p
  rw [Play.offered, Play.offered, h.isOffered]

/-! ### Branches -/

theorem descendants (h : play.Resembles other) : play.descendants = other.descendants := by
  have hnext : play.continuations = other.continuations := by
    funext source l
    rw [continuations, continuations, h.offered]
  funext l source
  rw [Play.descendants, Play.descendants, hnext]

/-- Whether a branch is explored depends on the marks of links, too. -/
theorem isExplored (h : play.Resembles other)
    (htaken : ∀ l, play.taken.get l = other.taken.get l) : play.isExplored = other.isExplored := by
  have hjudged : play.taken.get = other.taken.get := funext htaken
  funext l source
  rw [Play.isExplored, Play.isExplored, h.descendants, hjudged]

end Resembles

/-- **What is shown depends only on what conditions can see.** Two playthroughs with the same
balance, the same names of items, the same facts and the same used up passages answer all queries
alike, with the same errors; a query about what was explored needs the same marks of links. -/
theorem view_eq_of_resembles (h : play.Resembles other) :
    (∀ p, play.content p = other.content p) ∧
    (∀ p, play.offered p = other.offered p) ∧
    (∀ d : Dialog s, d.options play = d.options other ∧ d.isFinished play = d.isFinished other) ∧
    (∀ l source, play.descendants l source = other.descendants l source) ∧
    ((∀ l, play.taken.get l = other.taken.get l) →
      ∀ l source, play.isExplored l source = other.isExplored l source) := by
  refine ⟨fun p => ?_, fun p => ?_, fun d => ⟨?_, ?_⟩, fun l source => ?_,
    fun htaken l source => ?_⟩
  · rw [h.content]
  · rw [h.offered]
  · rw [Dialog.options, Dialog.options, h.offered]
  · rw [Dialog.isFinished, Dialog.isFinished, h.offered]
  · rw [h.descendants]
  · rw [h.isExplored htaken]

end Play

/-! ### A harbour -/

/-- A quay with a boat that can be boarded once, if there is a rope, and a barge whose price is not
written as a number. -/
def harbour : Story where
  title := ""
  passages := [⟨"Quay", "", [⟨"Fog.\n", [⟨false, .fact, "dawn"⟩]⟩], [], false⟩,
    ⟨"Boat", "", [], [], true⟩, ⟨"Barge", "", [], [], false⟩]
  links := [⟨0, 1, "Board", [⟨true, .hasItem, "rope"⟩], []⟩,
    ⟨0, 2, "Hire", [⟨true, .hasItem, "lamp"⟩, ⟨true, .hasMoney, "ten"⟩], []⟩,
    ⟨1, 0, "Land", [], []⟩]
  titles_nodup := by decide

namespace harbour

/-- The passage between the boat and the barge. -/
def quay : harbour.PassageId := ⟨0, by decide⟩

/-- A player who came with a rope and found lamps, and who has not been anywhere. -/
def newcomer : Play harbour where
  player := { money := 3, items := [⟨"rope", 1⟩, ⟨"lamp", 2⟩] }

/-- A player who came with a lamp and found ropes, and who knows the quay and the barge. -/
def regular : Play harbour where
  player := { money := 3, items := [⟨"lamp", 1⟩, ⟨"rope", 4⟩] }
  visited := #v[true, false, true]
  taken := #v[false, true, false]

theorem newcomer_resembles_regular : newcomer.Resembles regular where
  player := ⟨rfl, fun name => by simp [newcomer, regular, or_comm], fun fact => Iff.rfl⟩
  usedUp := by decide +kernel

/-- At the quay both players meet the price that is no number. -/
theorem view_eq_of_resembles_regular :
    newcomer.Resembles regular ∧ newcomer.player ≠ regular.player ∧
    newcomer.visited ≠ regular.visited ∧ newcomer.taken ≠ regular.taken ∧
    newcomer.offered quay = .error (.invalidThreshold "ten") ∧
    newcomer.offered quay = regular.offered quay ∧
    newcomer.content quay = regular.content quay ∧
    ∀ l source, newcomer.descendants l source = regular.descendants l source := by
  obtain ⟨hcontent, hoffered, -, hdescendants, -⟩ :=
    Play.view_eq_of_resembles newcomer_resembles_regular
  exact ⟨newcomer_resembles_regular, by decide, by decide, by decide, rfl, hoffered quay,
    hcontent quay, hdescendants⟩

end harbour

end Skein
