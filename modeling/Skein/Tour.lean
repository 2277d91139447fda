import Skein.Dialog
import Skein.Loading
import Skein.Play.Inspection
import Skein.Report

/-!
# A tour of the sample story

A program that plays the sample story along a fixed route: a night at the YMCA, a newspaper, a
ticket and the train to Arkham. It prints every passage with its options, every choice, and at the
end what the player owns and knows.

## Main definitions

* `Tour.route` — the choices, in order
* `Tour.walk` — what is printed on the way
* `Tour.run` — the whole program
-/

namespace Skein

namespace Tour

/-- The path of the manifest of the sample story. -/
def manifestPath : String := "stories/newburyport.ron"

/-- The choices, in order. -/
def route : List String :=
  ["Visit your room at YMCA",
   "Go outside",
   "Talk with the Shopkeeper",
   "Buy a newspaper",
   "Back",
   "Leave",
   "Read the newspaper",
   "Fold it",
   "Go to the train station",
   "Check tickets to Arkham",
   "Buy a ticket",
   "Back",
   "Board the train to Arkham"]

variable {s : Story}

/-- The lines for what listeners are told. -/
def noticeLines (notices : List Inventory) : String :=
  String.join (notices.map fun i =>
    "  [inventory] $" ++ toString i.money ++ " " ++
      inspectTexts (i.items.map fun item => item.name ++ " x" ++ toString item.count) ++ "\n")

/-- A passage with its options. -/
def showPassage (play : Play s) (dialog : Dialog s) : Except PlayError String := do
  let content ← play.content dialog.passage
  let options ← dialog.options play
  return "[" ++ (s.passage dialog.passage).displayTitle ++ "]\n" ++ content ++
    String.join (options.map fun option => "  * " ++ option.text ++ "\n")

/-- What the player owns and knows at the end. -/
def showPlayer (p : Player) : String :=
  "\n--- Final state ---\nMoney: " ++ toString p.money ++ "\n" ++
    String.join (p.items.map fun item =>
      "Item: " ++ item.name ++ " x" ++ toString item.count ++ "\n") ++
    "Facts: " ++ inspectTexts p.facts ++ "\n"

/-- What is printed on the way along the given choices, and why the way ended early if it did. -/
def walk (play : Play s) (dialog : Dialog s) : List String → String × Option String
  | [] =>
    match showPassage play dialog with
    | .error e => ("", some ("Failed to render: " ++ e.message))
    | .ok passage => (passage ++ showPlayer play.player, none)
  | choice :: rest =>
    match showPassage play dialog, dialog.options play with
    | .error e, _ | _, .error e => ("", some ("Failed to render: " ++ e.message))
    | .ok passage, .ok options =>
      match options.findIdx? (·.text = choice) with
      | none => (passage, some ("Option '" ++ choice ++ "' is not available"))
      | some index =>
        let announced := passage ++ "\n> " ++ choice ++ "\n\n"
        match dialog.select index play with
        | .error e => (announced, some ("Failed to select: " ++ e.message))
        | .ok selected =>
          let (outcome, next) := selected.confirm play
          let heard := announced ++ noticeLines outcome.notices
          match outcome.result with
          | .error e => (heard, some ("Failed to follow link: " ++ e.message))
          | .ok _ =>
            let (printed, reason) := walk outcome.play next rest
            (heard ++ printed, reason)

/-- The report on a tour that printed a text and may have ended early. -/
def report (printed : String) : Option String → Report
  | none => ⟨0, printed, ""⟩
  | some reason => ⟨101, printed, reason ++ "\n"⟩

/-- The tour through a game that was opened. -/
def ofGame (game : Game) : Report :=
  let outcome := Dialog.begin game.play
  let printed := "=== " ++ game.story.title ++ " ===\n\n" ++ noticeLines outcome.notices
  match outcome.result with
  | .error e => report printed (some ("Failed to enter the start passage: " ++ e.message))
  | .ok none => report printed (some "Manifest has no start passage")
  | .ok (some dialog) =>
    let (walked, reason) := walk outcome.play dialog route
    report (printed ++ walked) reason

/-- **The whole program.** -/
def run {m : Type → Type} [Monad m] (files : FileAccess m) : m Report := do
  match ← ({ manifestPath := some manifestPath, listeners := 1 } : Opening).load files.readText with
  | .error e => return report "" (some ("Failed to load Newburyport: " ++ e.message))
  | .ok game => return ofGame game

end Tour

end Skein
