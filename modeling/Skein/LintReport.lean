import Skein.Loading
import Skein.Report
import Skein.Story.Check

/-!
# The linter

A program that opens a story, checks it and reports what it found. A story that cannot be opened
counts as one error; any error makes the program fail.

## Main definitions

* `LintReport.ofGame` — the report on a story that was opened
* `LintReport.run` — the whole program
-/

namespace Skein

namespace LintReport

/-- How the linter is used. -/
def usage : String :=
  "Usage: story_linter <script.twee|manifest.ron> [--start <title>]\n"

/-- The heading of every report. -/
def heading : String :=
  "\n=== Story Lint Report ===\n\n"

/-- The title of the start that the arguments after the path give; other arguments mean nothing. -/
def readStart (start : Option String) : List String → Option String
  | [] => start
  | "--start" :: title :: rest => readStart (some title) rest
  | _ :: rest => readStart start rest

/-- The last lines of a report. -/
def summary (errors warnings : Nat) : String :=
  "\nSummary: " ++ toString errors ++ " errors, " ++ toString warnings ++ " warnings\n"

/-- The report on a story that was opened. -/
def ofGame (game : Game) : Report :=
  let errors := game.story.defects
  let warnings := game.story.warnings game.play.start
  let loaded :=
    "Loaded '" ++ game.story.title ++ "': " ++ toString game.story.passages.length ++
      " passages, " ++ toString game.story.links.length ++ " links\n"
  let praise := if errors = [] ∧ warnings = [] then "All checks passed!\n" else ""
  { code := if errors = [] then 0 else 1
    stdout := loaded ++ heading ++ praise ++
      unlines (errors.map fun defect => "ERROR: " ++ defect.message) ++
      unlines (warnings.map fun warning => "WARNING: " ++ warning.message) ++
      summary errors.length warnings.length
    stderr := "" }

/-- **The whole program**, given its arguments. -/
def run {m : Type → Type} [Monad m] (files : FileAccess m) (arguments : List String) : m Report :=
  match arguments with
  | [] => return ⟨0, usage, ""⟩
  | path :: rest =>
    if asksForHelp path then return ⟨0, usage, ""⟩
    else do
      if ← files.isFile path then
        match ← (Opening.ofPath path (readStart none rest) 0).load files.readText with
        | .error e => return ⟨1, heading ++ "ERROR: " ++ e.message ++ "\n" ++ summary 1 0, ""⟩
        | .ok game => return ofGame game
      else return ⟨1, "", "ERROR: Path '" ++ path ++ "' does not exist\n"⟩

end LintReport

end Skein
