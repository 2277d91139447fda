import Skein.Program

/-!
# Command line

The first argument names a program, the others are its arguments. The preview is interactive: it
prints what a line gives before it asks for the next one.
-/

namespace Skein

namespace CommandLine

/-- The cause of a failure of the real file system; the number of a cause may come negated. -/
def fileError : IO.Error → FileError
  | .noFileOrDirectory .. => .notFound
  | .inappropriateType _ 21 _ => .isDirectory
  | .inappropriateType .. => .notDirectory
  | .permissionDenied .. => .other "Permission denied (os error 13)"
  | .invalidArgument path code details =>
    if code = 36 ∨ code = 0 - 36 then .nameTooLong
    else .other (toString (IO.Error.invalidArgument path code details))
  | error => .other (toString error)

/-- Use the file at a path of the real file system. -/
def withPath {α : Type} (path : String) (use : IO α) : IO (Except FileError α) := do
  if path.toList.contains '\x00' then return .error .malformedPath
  match ← use.toBaseIO with
  | .error error => return .error (fileError error)
  | .ok value => return .ok value

/-- The real file system. -/
def realFiles : FileAccess IO where
  readText path := do
    match ← withPath path (IO.FS.readBinFile path) with
    | .error error => return .error error
    | .ok content =>
      match String.fromUTF8? content with
      | some text => return .ok text
      | none => return .error .invalidText
  isFile path := do
    match ← withPath path (IO.FS.readBinFile path) with
    | .error _ => return false
    | .ok _ => return true
  writeText path text := withPath path (IO.FS.writeFile path text)

/-- Print what a program left behind; the answer is its exit code. -/
def finish (report : Report) : IO UInt32 := do
  IO.print report.stdout
  IO.eprint report.stderr
  return report.code.toUInt32

/-- Ask for lines and obey them until the preview ends. -/
partial def converse (sh : Shell) : IO Unit := do
  IO.print Preview.prompt
  (← IO.getStdout).flush
  match ← ((← IO.getStdin).getLine).toBaseIO with
  | .error _ => return
  | .ok line =>
    if line.isEmpty then return
    let (text, after) := sh.obey line
    IO.print text
    match after with
    | none => return
    | some sh => converse sh

/-- Run the program that the first argument names. -/
def run (arguments : List String) : IO UInt32 := do
  match arguments with
  | "preview" :: rest =>
    match ← Preview.start realFiles rest with
    | .error report => finish report
    | .ok (printed, sh) =>
      IO.print printed
      converse sh
      return 0
  | name :: rest =>
    match Program.ofName? name with
    | some program => finish (← program.run realFiles rest ByteArray.empty)
    | none => finish ⟨1, "", "Unknown program: " ++ name ++ "\n"⟩
  | [] => finish ⟨1, "", "Usage: skein <program> [arguments]\n"⟩

end CommandLine

end Skein

/-- The whole program. -/
def main (arguments : List String) : IO UInt32 :=
  Skein.CommandLine.run arguments
