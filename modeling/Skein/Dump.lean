import Skein.Files
import Skein.Report
import Skein.Ron.Draft
import Skein.Script.Reading

/-!
# The dump

A program that reads a script and writes the draft it describes, as RON with one item or field a
line, to the standard output or into a file.

## Main definitions

* `Dump.Request` — what the arguments ask for
* `Dump.run` — the whole program
-/

namespace Skein

namespace Dump

/-- How the dump is used. -/
def usage : String :=
  "Usage: story_dump <script.twee> [--output <file.ron>]\n"

/-- What the arguments ask for. -/
inductive Request where
  /-- An explanation. -/
  | help
  /-- Nothing that can be done: an argument has no meaning. -/
  | unknown (argument : String)
  /-- A dump of the script at the path `input`, if there is one, to the file `output` if given. -/
  | dump (input output : Option String)

/-- What the arguments ask for. -/
def readArguments (input output : Option String) : List String → Request
  | [] => .dump input output
  | "--output" :: path :: rest => readArguments input (some path) rest
  | argument :: rest =>
    if asksForHelp argument then .help
    else
      match input with
      | none => readArguments (some argument) output rest
      | some _ => .unknown argument

/-- A report on something that failed. -/
def failure (message : String) : Report :=
  ⟨1, "", message ++ "\n"⟩

/-- Write a draft that was read from the path `input`. -/
def write {m : Type → Type} [Monad m] (files : FileAccess m) (input : String)
    (output : Option String) (draft : Draft) : m Report :=
  let text := Ron.writeDraft Ron.Style.pretty draft
  match output with
  | none => return ⟨0, text ++ "\n", ""⟩
  | some path => do
    match ← files.writeText path text with
    | .error e => return failure ("Error writing " ++ path ++ ": " ++ e.message)
    | .ok () =>
      return ⟨0, "", "Dumped " ++ toString draft.passages.length ++ " passages from " ++ input ++
        " to " ++ path ++ "\n"⟩

/-- **The whole program**, given its arguments. -/
def run {m : Type → Type} [Monad m] (files : FileAccess m) (arguments : List String) : m Report :=
  match readArguments none none arguments with
  | .help => return ⟨0, usage, ""⟩
  | .unknown argument => return failure ("Unknown argument: " ++ argument)
  | .dump none _ => return ⟨1, "", "Error: a script path is required\n" ++ usage⟩
  | .dump (some input) output => do
    match ← files.readText input with
    | .error e => return failure ("Error reading " ++ input ++ ": " ++ e.message)
    | .ok source =>
      match Script.read source with
      | .error e => return failure ("Error parsing " ++ input ++ ": " ++ e.message)
      | .ok draft => write files input output draft

end Dump

end Skein
