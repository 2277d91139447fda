import Skein.Play.Offer

/-!
# Dialogs

A dialog presents one passage and keeps a cursor on one of its options. The options are judged anew
each time, so a cursor can be left over from a longer list; moving it repairs that first, while
presenting and confirming take it as it is.

## Main definitions

* `Dialog` — a passage and a cursor
* `Choice` — an option as a host presents it
* `Dialog.begin` — enter the start passage and present it
* `Dialog.next`, `Dialog.previous`, `Dialog.select` — movements of the cursor
* `Dialog.confirm` — take the option at the cursor and present its target

## Main results

* `Dialog.nextCursor_lt`, `Dialog.previousCursor_lt`, `Dialog.selectCursor_lt` — where there is an
  option, a movement puts the cursor on one
-/

namespace Skein

/-- A passage that is presented, and the cursor on its options. -/
structure Dialog (s : Story) where
  /-- The passage. -/
  passage : s.PassageId
  /-- The place of the selected option, counted from zero. -/
  cursor : Nat := 0

/-- An option as a host presents it. -/
structure Choice (s : Story) where
  /-- The link that the option takes. -/
  link : s.LinkId
  /-- What the reader sees. -/
  text : String
  /-- Whether the cursor is on the option. -/
  selected : Bool

namespace Dialog

variable {s : Story}

/-- Enter the start passage and present it; nothing happens if the story has none. -/
def begin (play : Play s) : Outcome s (Option (Dialog s)) :=
  match play.start with
  | none => ⟨.ok none, play, []⟩
  | some p => (play.visit p).map fun _ => some { passage := p }

/-- The options of a dialog, in order. -/
def options (d : Dialog s) (play : Play s) : Except PlayError (List (Choice s)) := do
  let links ← play.offered d.passage
  return links.mapIdx fun i l => ⟨l, (s.link l).text, i == d.cursor⟩

/-- Whether there is nothing to choose: the story ends here. -/
def isFinished (d : Dialog s) (play : Play s) : Except PlayError Bool := do
  return (← play.offered d.passage).isEmpty

/-- The place after the cursor among `count` options, the first place after the last one. -/
def nextCursor (count cursor : Nat) : Nat :=
  if count = 0 then cursor else (min cursor (count - 1) + 1) % count

/-- The place before the cursor among `count` options, the last place before the first one. -/
def previousCursor (count cursor : Nat) : Nat :=
  if count = 0 then cursor
  else if min cursor (count - 1) = 0 then count - 1
  else min cursor (count - 1) - 1

/-- The place of the option with the given index among `count` options, or else the first place. -/
def selectCursor (count index : Nat) : Nat :=
  if index < count then index else 0

theorem nextCursor_lt {count : Nat} (h : count ≠ 0) (cursor : Nat) :
    nextCursor count cursor < count := by
  rw [nextCursor, if_neg h]
  exact Nat.mod_lt _ (Nat.pos_of_ne_zero h)

theorem previousCursor_lt {count : Nat} (h : count ≠ 0) (cursor : Nat) :
    previousCursor count cursor < count := by
  rw [previousCursor, if_neg h]
  split
  · omega
  · omega

theorem selectCursor_lt {count : Nat} (h : count ≠ 0) (index : Nat) :
    selectCursor count index < count := by
  rw [selectCursor]
  split
  · assumption
  · exact Nat.pos_of_ne_zero h

/-- The dialog with its cursor moved according to the number of options. -/
def moveCursor (move : (count cursor : Nat) → Nat) (d : Dialog s) (play : Play s) :
    Except PlayError (Dialog s) := do
  let links ← play.offered d.passage
  return { d with cursor := move links.length d.cursor }

/-- Move the cursor to the next option. -/
def next (d : Dialog s) (play : Play s) : Except PlayError (Dialog s) :=
  d.moveCursor nextCursor play

/-- Move the cursor to the previous option. -/
def previous (d : Dialog s) (play : Play s) : Except PlayError (Dialog s) :=
  d.moveCursor previousCursor play

/-- Move the cursor to the option with the given index, or to the first if there is no such. -/
def select (d : Dialog s) (index : Nat) (play : Play s) : Except PlayError (Dialog s) :=
  d.moveCursor (fun count _ => selectCursor count index) play

/-- **Take the option at the cursor** and present its target; the result is the target, or nothing
if no option is at the cursor. If the move fails, the dialog stays where it was. -/
def confirm (d : Dialog s) (play : Play s) : Outcome s (Option s.PassageId) × Dialog s :=
  match play.offered d.passage with
  | .error e => (⟨.error e, play, []⟩, d)
  | .ok links =>
    match links[d.cursor]? with
    | none => (⟨.ok none, play, []⟩, d)
    | some l =>
      let outcome := play.follow l
      (outcome.map some,
        match outcome.result with
        | .ok target => { passage := target }
        | .error _ => d)

end Dialog

end Skein
