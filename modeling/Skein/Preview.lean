import Skein.Dialog
import Skein.Loading
import Skein.Play.Branch
import Skein.Play.Inspection
import Skein.Preview.Command
import Skein.Report

/-!
# The preview

An interactive playthrough for those who write scripts. The preview opens a story, shows the start
passage and then obeys commands until it is told to stop or there are no more lines. Whatever
listeners are told is printed at once.

## Main definitions

* `Shell` — the state of the preview
* `Shell.obey` — what a command prints, and the state after it
* `Preview.start` — the preview before the first command
* `Preview.run` — the whole preview on an input that is known beforehand
-/

namespace Skein

/-- The state of the preview. -/
structure Shell where
  /-- The story that is played. -/
  story : Story
  /-- The playthrough. -/
  play : Play story
  /-- The dialog. -/
  dialog : Dialog story

namespace Shell

/-- The line for an error. -/
def errorLine (message : String) : String :=
  "ERROR: " ++ message ++ "\n"

/-- The lines for what listeners are told. -/
def noticeLines (notices : List Inventory) : String :=
  String.join (notices.map fun i =>
    "[Inventory] money=" ++ toString i.money ++ " items=" ++ toString i.items.length ++ "\n")

/-- The line for an option, of which `n` is the number. -/
def optionLine (sh : Shell) (n : Nat) (option : Choice sh.story) : String :=
  let done :=
    match sh.play.isBranchComplete option.link with
    | .ok true => " (explored)"
    | _ => ""
  (if option.selected then ">" else " ") ++ " " ++ toString n ++ ". " ++ option.text ++ done ++ "\n"

/-- The options of the passage that is presented. -/
def showOptions (sh : Shell) : String :=
  match sh.dialog.options sh.play with
  | .error e => errorLine e.message
  | .ok [] => "\n(The End)\n"
  | .ok options =>
    "\n" ++ String.join (options.zipIdx.map fun (option, i) => sh.optionLine (i + 1) option)

/-- The passage that is presented and its options. -/
def showPassage (sh : Shell) : String :=
  let content :=
    match sh.play.content sh.dialog.passage with
    | .ok text => text
    | .error e => errorLine e.message
  "\n=== " ++ (sh.story.passage sh.dialog.passage).displayTitle ++ " ===\n" ++ content ++
    sh.showOptions

/-- What the player owns and knows. -/
def showInventory (sh : Shell) : String :=
  let player := sh.play.player
  let items :=
    if player.items = [] then "Items: none\n"
    else "Items:\n" ++ String.join (player.items.map fun item =>
      "  " ++ item.name ++ " x" ++ toString item.count ++ "\n")
  "Money: " ++ toString player.money ++ "\n" ++ items ++
    "Facts: " ++ inspectTexts player.facts ++ "\n"

/-- The list of the commands. -/
def helpText : String :=
  unlines [
    "Commands:",
    "  look            Show the current passage and its options",
    "  go <n>          Take option n",
    "  next / prev     Move the selection",
    "  ok              Take the selected option",
    "  inv             Show money, items and facts",
    "  give <item>     Add an item",
    "  take <item>     Remove an item",
    "  money <n>       Add money (negative to take)",
    "  fact <name>     Add a fact",
    "  help            Show this help",
    "  quit            Exit"]

/-- A movement of the cursor, after which the options are shown. -/
def moved (sh : Shell) (dialog : Except PlayError (Dialog sh.story)) : String × Shell :=
  match dialog with
  | .error e => (errorLine e.message, sh)
  | .ok d =>
    let after : Shell := { sh with dialog := d }
    (after.showOptions, after)

/-- The selected option is taken, after which the new passage is shown. -/
def confirmed (sh : Shell) : String × Shell :=
  let (outcome, dialog) := sh.dialog.confirm sh.play
  let after : Shell := ⟨sh.story, outcome.play, dialog⟩
  let text :=
    match outcome.result with
    | .error e => errorLine e.message
    | .ok none => "Nowhere to go.\n"
    | .ok (some _) => after.showPassage
  (noticeLines outcome.notices ++ text, after)

/-- A change of the player from outside the story. -/
def changed (sh : Shell) (c : Change) : String × Shell :=
  let outcome := sh.play.change c
  let text :=
    match outcome.result with
    | .error e => errorLine e.message
    | .ok () => ""
  (noticeLines outcome.notices ++ text, { sh with play := outcome.play })

/-- The option with the given number is selected and taken. -/
def went (sh : Shell) (n : Nat) : String × Shell :=
  match sh.dialog.select (n - 1) sh.play with
  | .error e => (errorLine e.message, sh)
  | .ok d => confirmed { sh with dialog := d }

/-- What a command other than the one to stop prints, and the state after it. -/
def perform (sh : Shell) : Command → String × Shell
  | .quit => ("", sh)
  | .help => (helpText, sh)
  | .look => (sh.showPassage, sh)
  | .next => sh.moved (sh.dialog.next sh.play)
  | .previous => sh.moved (sh.dialog.previous sh.play)
  | .go n => sh.went n
  | .confirm => sh.confirmed
  | .inventory => (sh.showInventory, sh)
  | .give name => sh.changed (.addItem name)
  | .take name => sh.changed (.takeItem name)
  | .money amount => sh.changed (.addMoney amount)
  | .learn fact => sh.changed (.addFact fact)
  | .misused usage => (usage ++ "\n", sh)
  | .unknown line =>
    ("Unknown command: '" ++ line ++ "'. Type 'help' for available commands.\n", sh)

/-- **What a line prints, and the state after it**; no state after the command to stop. -/
def obey (sh : Shell) (line : String) : String × Option Shell :=
  match Command.read line with
  | none => ("", some sh)
  | some .quit => ("Goodbye.\n", none)
  | some command =>
    let (text, after) := sh.perform command
    (text, some after)

end Shell

namespace Preview

/-- What asks for the next command. -/
def prompt : String := "preview> "

/-- How the preview is used. -/
def usage : String :=
  unlines [
    "Preview: interactive playthrough shell for story scripts.",
    "",
    "Usage: preview <script.twee|manifest.ron> [--start <title>]",
    "",
    "  --start <title>  Passage to begin in (overrides the manifest)"]

/-- The title of the start that the arguments after the path give; or the first argument that has no
meaning. -/
def readArguments (start : Option String) : List String → Except String (Option String)
  | [] => .ok start
  | "--start" :: title :: rest => readArguments (some title) rest
  | argument :: _ => .error argument

/-- The preview of a game before the first command: its state and what was printed so far, or how it
ended. -/
def ofGame (game : Game) : Except Report (String × Shell) :=
  let outcome := Dialog.begin game.play
  let printed := Shell.noticeLines outcome.notices
  match outcome.result with
  | .error e => .error ⟨1, printed, Shell.errorLine e.message⟩
  | .ok none =>
    .error ⟨1, printed,
      Shell.errorLine "no start passage; pass --start <title> or set it in the manifest"⟩
  | .ok (some dialog) =>
    let sh : Shell := ⟨game.story, outcome.play, dialog⟩
    .ok (printed ++ "Loaded '" ++ game.story.title ++ "' with " ++
      toString game.story.passages.length ++ " passages\nType 'help' for commands.\n\n" ++
      sh.showPassage, sh)

/-- The preview before the first command, given the arguments of the program. -/
def start {m : Type → Type} [Monad m] (files : FileAccess m) (arguments : List String) :
    m (Except Report (String × Shell)) :=
  match arguments with
  | [] => return .error ⟨0, usage, ""⟩
  | path :: rest =>
    if asksForHelp path then return .error ⟨0, usage, ""⟩
    else
      match readArguments none rest with
      | .error argument => return .error ⟨1, usage, "Unknown argument: " ++ argument ++ "\n"⟩
      | .ok title => do
        match ← (Opening.ofPath path title 1).load files.readText with
        | .error e => return .error ⟨1, "", Shell.errorLine e.message⟩
        | .ok game => return ofGame game

/-- The lines of an input, up to the first that is no text. -/
def inputLines (input : ByteArray) : List String :=
  let pieces := Text.splitWhere (· == '\n'.toUInt8) input.toList
  let lines := if pieces.getLast? = some [] then pieces.dropLast else pieces
  ((lines.map fun line => String.fromUTF8? ⟨line.toArray⟩).takeWhile Option.isSome).filterMap id

/-- What the preview prints for the lines that are typed, prompts included. -/
def converse (sh : Shell) : List String → String
  | [] => prompt
  | line :: rest =>
    match sh.obey line with
    | (text, none) => prompt ++ text
    | (text, some after) => prompt ++ text ++ converse after rest

/-- **The whole preview** on an input that is known beforehand. -/
def run {m : Type → Type} [Monad m] (files : FileAccess m) (arguments : List String)
    (input : ByteArray) : m Report := do
  match ← start files arguments with
  | .error report => return report
  | .ok (printed, sh) => return ⟨0, printed ++ converse sh (inputLines input), ""⟩

end Preview

end Skein
