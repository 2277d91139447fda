import Skein.Dump
import Skein.LintReport
import Skein.Preview
import Skein.Tour

/-!
# Programs

The four programs under their names, as functions of a file system, arguments and an input. The
command line runs them on the real file system; on a directory tree they are values.

## Main definitions

* `Program` — the programs
* `Program.ofName?` — the program of a name
* `Program.run` — what a program leaves behind
-/

namespace Skein

/-- The programs for the command line. -/
inductive Program where
  /-- An interactive playthrough. -/
  | preview
  /-- A report on the flaws of a story. -/
  | linter
  /-- A script as stored draft. -/
  | dump
  /-- The sample story along a fixed route. -/
  | tour
  deriving DecidableEq

namespace Program

/-- The program of a name. -/
def ofName? : String → Option Program
  | "preview" => some preview
  | "story_linter" => some linter
  | "story_dump" => some dump
  | "newburyport" => some tour
  | _ => none

/-- **What a program leaves behind**, given its arguments and its whole input. -/
def run {m : Type → Type} [Monad m] (files : FileAccess m) (arguments : List String)
    (input : ByteArray) : Program → m Report
  | preview => Preview.run files arguments input
  | linter => LintReport.run files arguments
  | dump => Dump.run files arguments
  | tour => Tour.run files

end Program

end Skein
