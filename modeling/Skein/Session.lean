import Skein.Dialog
import Skein.Json
import Skein.Loading
import Skein.Play.Branch

/-!
# Sessions

A session is a game with a dialog, as a host in a browser holds it: it is opened from a script and
the title of a passage, and every call either answers or fails. Lists of options and inventories
are answered as JSON text.

## Main definitions

* `Session` — a game and a dialog on it
* `Session.begin` — the session opened from a script
* `Session.optionsJson`, `Session.inventoryJson` — what can be chosen and what is owned
* `Session.next`, `Session.previous`, `Session.select`, `Session.confirm` — moves
-/

namespace Skein

/-- A game and a dialog on it. -/
structure Session where
  /-- The story that is played. -/
  story : Story
  /-- The playthrough. -/
  play : Play story
  /-- The dialog. -/
  dialog : Dialog story

/-- The causes for which a session cannot be opened. -/
inductive SessionError where
  /-- The story cannot be opened. -/
  | load (error : LoadError)
  /-- The start passage cannot be entered. -/
  | play (error : PlayError)
  /-- The story has no start passage. -/
  | noStart

/-- The wording of an error. -/
def SessionError.message : SessionError → String
  | load error => "Story load error: " ++ error.message
  | play error => error.message
  | noStart => "Story has no start passage"

namespace Session

/-- A session on a game, whose start passage is entered. -/
def ofGame (game : Game) : Except SessionError Session :=
  let outcome := Dialog.begin game.play
  match outcome.result with
  | .error e => .error (.play e)
  | .ok none => .error .noStart
  | .ok (some dialog) => .ok ⟨game.story, outcome.play, dialog⟩

/-- **The session opened from a script**, which begins in the passage with the given title. -/
def begin (script start : String) : Except SessionError Session :=
  match Opening.assemble { script := some script, start := some start } none script with
  | .error e => .error (.load e)
  | .ok game => ofGame game

/-- The title of the story. -/
def title (s : Session) : String :=
  s.story.title

/-- The heading of the passage that is presented. -/
def passageTitle (s : Session) : String :=
  (s.story.passage s.dialog.passage).displayTitle

/-- The text of the passage that is presented. -/
def content (s : Session) : Except PlayError String :=
  s.play.content s.dialog.passage

/-- The options as JSON, each with its place, its text, whether it is selected and whether the
branch behind it is explored. -/
def optionsJson (s : Session) : Except PlayError String := do
  let options ← s.dialog.options s.play
  let items ← options.zipIdx.mapM fun (option, index) => do
    let explored ← s.play.isBranchComplete option.link
    return Json.object [
      ("index", toString index),
      ("text", Json.quoted option.text),
      ("selected", Json.boolean option.selected),
      ("explored", Json.boolean explored)]
  return Json.array items

/-- What the player owns and knows, as JSON. -/
def inventoryJson (s : Session) : String :=
  Json.object [
    ("money", toString s.play.player.money),
    ("items", Json.array (s.play.player.items.map fun item =>
      Json.object [("name", Json.quoted item.name), ("count", toString item.count)])),
    ("facts", Json.array (s.play.player.facts.map Json.quoted))]

/-- Whether there is nothing to choose. -/
def isFinished (s : Session) : Except PlayError Bool :=
  s.dialog.isFinished s.play

/-- The session with a moved cursor. -/
def withDialog (s : Session) (dialog : Except PlayError (Dialog s.story)) :
    Except PlayError Session :=
  dialog.map fun d => { s with dialog := d }

/-- Select the next option. -/
def next (s : Session) : Except PlayError Session :=
  s.withDialog (s.dialog.next s.play)

/-- Select the previous option. -/
def previous (s : Session) : Except PlayError Session :=
  s.withDialog (s.dialog.previous s.play)

/-- Select the option with the given index. -/
def select (s : Session) (index : Nat) : Except PlayError Session :=
  s.withDialog (s.dialog.select index s.play)

/-- Take the selected option; the answer says whether there was one. The session after it is an
answer of its own, because a move that fails leaves traces. -/
def confirm (s : Session) : Except PlayError Bool × Session :=
  let (outcome, dialog) := s.dialog.confirm s.play
  (outcome.result.map Option.isSome, ⟨s.story, outcome.play, dialog⟩)

end Session

end Skein
