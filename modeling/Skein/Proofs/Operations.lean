import Skein.Dialog
import Skein.Play.Branch

/-!
# What a host can do

A host holds a playthrough and some dialogs, and calls operations on them in whatever order it
likes. Here the operations are data, so that theorems can speak of all runs: an operation has an
outcome in every playthrough, and a run is a list of operations, carried out one after the other
whether they succeed or not.

A dialog is a value that the host keeps and not a part of the playthrough. Operations on dialogs
therefore name the dialog, and a run may use any dialog at any time: the one that was just moved, an
earlier one, or several side by side.

## Main definitions

* `Operation` — what a host can do
* `Answer` — what it is told if that succeeds
* `Operation.run` — the outcome of an operation
* `Play.after` — the playthrough after a run
-/

namespace Skein

/-- What a host can do. -/
inductive Operation (s : Story) where
  /-- Enter a passage. -/
  | visit (p : s.PassageId)
  /-- Take a link. -/
  | follow (l : s.LinkId)
  /-- Change the player directly. -/
  | change (c : Change)
  /-- Let an effect take place that belongs to no passage. -/
  | perform (e : Effect)
  /-- Let the story begin in the passage with the given title. -/
  | setStart (title : String)
  /-- Listen to the inventory. -/
  | listen
  /-- Enter the start passage and present it. -/
  | begin
  /-- Take the option at the cursor of a dialog. -/
  | confirm (d : Dialog s)
  /-- Move the cursor of a dialog to the next option. -/
  | next (d : Dialog s)
  /-- Move the cursor of a dialog to the previous option. -/
  | previous (d : Dialog s)
  /-- Move the cursor of a dialog to an option. -/
  | select (d : Dialog s) (index : Nat)
  /-- Ask for the options of a dialog. -/
  | options (d : Dialog s)
  /-- Ask whether a dialog offers nothing to choose. -/
  | isFinished (d : Dialog s)
  /-- Ask for the text of a passage. -/
  | content (p : s.PassageId)
  /-- Ask for the links of a passage that can be taken. -/
  | offered (p : s.PassageId)
  /-- Ask for the branch behind a link. -/
  | descendants (l : s.LinkId) (source : s.PassageId)
  /-- Ask whether the branch behind a link is explored. -/
  | isExplored (l : s.LinkId) (source : s.PassageId)
  /-- Ask the same, as seen from the passage that the link belongs to. -/
  | isBranchComplete (l : s.LinkId)

/-- What a host is told by an operation that succeeds. -/
inductive Answer (s : Story) where
  /-- That it is done. -/
  | done
  /-- The passage that was entered. -/
  | entered (p : s.PassageId)
  /-- The dialog that was begun, if the story has a start. -/
  | begun (d : Option (Dialog s))
  /-- The passage that was entered if there was an option, and the dialog after that. -/
  | confirmed (p : Option s.PassageId) (d : Dialog s)
  /-- The dialog with a moved cursor. -/
  | moved (d : Dialog s)
  /-- The options of a dialog. -/
  | options (choices : List (Choice s))
  /-- The text of a passage. -/
  | text (text : String)
  /-- Some links. -/
  | links (links : List s.LinkId)
  /-- That something is so, or that it is not. -/
  | verdict (b : Bool)

variable {s : Story}

/-- The outcome of looking something up, which leaves no traces. -/
def Outcome.ofQuery {α : Type} (result : Except PlayError α) (play : Play s) : Outcome s α :=
  ⟨result, play, []⟩

/-- **The outcome of an operation** in a playthrough. -/
def Operation.run (op : Operation s) (play : Play s) : Outcome s (Answer s) :=
  match op with
  | visit p => (play.visit p).map fun _ => .done
  | follow l => (play.follow l).map .entered
  | change c => (play.change c).map fun _ => .done
  | perform e => (play.perform e).map fun _ => .done
  | setStart title =>
    match play.setStart title with
    | .error e => ⟨.error e, play, []⟩
    | .ok started => ⟨.ok .done, started, []⟩
  | listen => ⟨.ok .done, { play with listeners := play.listeners + 1 }, []⟩
  | begin => (Dialog.begin play).map .begun
  | confirm d => (d.confirm play).1.map fun p => .confirmed p (d.confirm play).2
  | next d => .ofQuery ((d.next play).map .moved) play
  | previous d => .ofQuery ((d.previous play).map .moved) play
  | select d index => .ofQuery ((d.select index play).map .moved) play
  | options d => .ofQuery ((d.options play).map .options) play
  | isFinished d => .ofQuery ((d.isFinished play).map .verdict) play
  | content p => .ofQuery ((play.content p).map .text) play
  | offered p => .ofQuery ((play.offered p).map .links) play
  | descendants l source => .ofQuery ((play.descendants l source).map .links) play
  | isExplored l source => .ofQuery ((play.isExplored l source).map .verdict) play
  | isBranchComplete l => .ofQuery ((play.isBranchComplete l).map .verdict) play

/-- **The playthrough after a run.** An operation that fails does not end the run, and what it left
behind stays. -/
def Play.after (ops : List (Operation s)) (play : Play s) : Play s :=
  ops.foldl (fun play op => (op.run play).play) play

end Skein
