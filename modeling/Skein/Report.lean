/-!
# Programs for the command line

What a program leaves behind when it ends, and what the programs for the command line have in
common: they print whole lines, and the same words ask each of them for help.

## Main definitions

* `Report` — the texts that a program printed and its exit code
* `unlines` — lines as one text
* `asksForHelp` — whether an argument asks for help
-/

namespace Skein

/-- What a program leaves behind when it ends. -/
structure Report where
  /-- The exit code. -/
  code : Nat
  /-- What was printed to the standard output. -/
  stdout : String
  /-- What was printed to the standard error. -/
  stderr : String

/-- Lines as one text, each with a line end. -/
def unlines (lines : List String) : String :=
  String.join (lines.map (· ++ "\n"))

/-- Whether an argument asks for help. -/
def asksForHelp (argument : String) : Bool :=
  argument = "--help" || argument = "-h"

end Skein
