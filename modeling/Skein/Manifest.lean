import Skein.Ron.Draft

/-!
# Manifests

A manifest says where the script of a story is, and may say in which passage the story begins and
under which title it is shown. It is written in RON; an optional value is wrapped in `Some`, unless
the document enables leaving that away.

## Main definitions

* `Manifest` — the place of a script, and what is said about the story
* `Manifest.read` — the manifest that a text writes
-/

namespace Skein

/-- Where the script of a story is, and what is said about the story. -/
structure Manifest where
  /-- The path of the script. -/
  script : String
  /-- The title of the passage in which the story begins. -/
  start : Option String := none
  /-- The title under which the story is shown. -/
  title : Option String := none
  deriving DecidableEq

namespace Manifest

open Ron

/-- What is expected of a manifest. -/
def shape : Shape :=
  .record "StoryManifest" [
    ("script", .text),
    ("start", .optional .text),
    ("title", .optional .text)]

/-- The optional text that a value stands for. -/
def toOptionalText? : Value → Option (Option String)
  | .absent => some none
  | .present v => (toString? v).map some
  | _ => none

/-- The manifest that a value stands for. -/
def ofValue? (v : Value) : Option Manifest := do
  let fields ← fields? v
  return {
    script := ← required fields "script" toString?
    start := ← optional fields "start" none toOptionalText?
    title := ← optional fields "title" none toOptionalText? }

/-- The manifest that a text writes. -/
def read (s : String) : Option Manifest := do
  ofValue? (← Ron.read shape s)

end Manifest

end Skein
