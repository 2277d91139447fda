import Skein.Files
import Skein.Manifest
import Skein.Path
import Skein.Play
import Skein.Script.Reading
import Skein.Story.Linking

/-!
# Loading a story

A story is opened from a script that is given directly, or lies in a file, or lies in the file that
a manifest names. Title and start may be given directly, too, or in the manifest; a title also in
the script. What is given directly counts most, then the manifest, then the script. A file that
does not count is not read, except that a manifest is read whenever it is given by its path.

## Main definitions

* `Opening` — what a story is opened from
* `LoadError` — the causes for which a story cannot be opened
* `Game` — a story and a playthrough of it
* `Opening.ofPath` — the same for a story at a path
* `Opening.load` — the game that is opened
-/

namespace Skein

/-- A story and a playthrough of it. -/
structure Game where
  /-- The story. -/
  story : Story
  /-- The playthrough. -/
  play : Play story

/-- The causes for which a story cannot be opened. -/
inductive LoadError where
  /-- A file cannot be read. -/
  | file (error : FileError)
  /-- A manifest is not written as it should be. -/
  | malformedManifest
  /-- The script has a fault. -/
  | script (error : Script.Error)
  /-- The passages of the script do not fit together. -/
  | linking (error : LinkingError)
  /-- No passage has the title of the start. -/
  | startNotFound (title : String)
  /-- There is no script. -/
  | missingScript

/-- The wording of an error. -/
def LoadError.message : LoadError → String
  | file error => "IO error: " ++ error.message
  | malformedManifest => "RON deserialization error: malformed manifest"
  | script error => "parse error: " ++ error.message
  | linking error => "build error: " ++ error.message
  | startNotFound title => "start passage not found: " ++ title
  | missingScript => "no story script was provided"

/-- What a story is opened from. -/
structure Opening where
  /-- The script itself. -/
  script : Option String := none
  /-- The path of a script. -/
  scriptPath : Option String := none
  /-- A manifest itself. -/
  manifest : Option Manifest := none
  /-- The path of a manifest. -/
  manifestPath : Option String := none
  /-- The title of the passage in which the story begins. -/
  start : Option String := none
  /-- The title under which the story is shown. -/
  title : Option String := none
  /-- How many listeners are told of changes of the inventory. -/
  listeners : Nat := 0

/-- A manifest with the path of its script understood relative to the directory of the manifest. -/
def Manifest.relativeTo (manifest : Manifest) (path : String) : Manifest :=
  match Path.parent? path.toList with
  | none => manifest
  | some directory =>
    { manifest with script := String.ofList (Path.join directory manifest.script.toList) }

/-- The manifest in a file, with the path of its script understood relative to that file. -/
def Manifest.ofText (path text : String) : Except LoadError Manifest :=
  match Manifest.read text with
  | none => .error .malformedManifest
  | some manifest => .ok (manifest.relativeTo path)

variable {m : Type → Type} [Monad m]

/-- The manifest in the file at a path. -/
def Manifest.load (readText : String → m (Except FileError String)) (path : String) :
    m (Except LoadError Manifest) := do
  match ← readText path with
  | .error e => return .error (.file e)
  | .ok text => return Manifest.ofText path text

namespace Opening

/-- What a story at a path is opened from: a path that ends in `.ron` is that of a manifest. -/
def ofPath (path : String) (start : Option String) (listeners : Nat) : Opening :=
  let isManifest := Path.extension? path.toList = some ['r', 'o', 'n']
  { scriptPath := if isManifest then none else some path
    manifestPath := if isManifest then some path else none
    start := start
    listeners := listeners }

/-- The manifest that counts, if there is one. -/
def findManifest (readText : String → m (Except FileError String)) (o : Opening) :
    m (Except LoadError (Option Manifest)) :=
  match o.manifest, o.manifestPath with
  | some manifest, _ => return .ok (some manifest)
  | none, none => return .ok none
  | none, some path => do return (← Manifest.load readText path).map some

/-- The script that counts, given the manifest that counts. -/
def findScript (readText : String → m (Except FileError String)) (o : Opening)
    (manifest : Option Manifest) : m (Except LoadError String) :=
  match o.script, o.scriptPath <|> manifest.map Manifest.script with
  | some script, _ => return .ok script
  | none, none => return .error .missingScript
  | none, some path => do return (← readText path).mapError .file

/-- The game that is opened from a script, given the manifest that counts. -/
def assemble (o : Opening) (manifest : Option Manifest) (script : String) :
    Except LoadError Game := do
  let draft ← (Script.read script).mapError .script
  let linked ← (Story.ofDraft draft).mapError .linking
  let title := (o.title <|> manifest.bind Manifest.title).getD linked.title
  let story := { linked with title := title }
  let play : Play story := { listeners := o.listeners }
  match o.start <|> manifest.bind Manifest.start with
  | none => return ⟨story, play⟩
  | some start =>
    match play.setStart start with
    | .ok play => return ⟨story, play⟩
    | .error _ => .error (.startNotFound start)

/-- **The game that is opened.** -/
def load (readText : String → m (Except FileError String)) (o : Opening) :
    m (Except LoadError Game) := do
  match ← o.findManifest readText with
  | .error e => return .error e
  | .ok manifest =>
    match ← o.findScript readText manifest with
    | .error e => return .error e
    | .ok script => return o.assemble manifest script

end Opening

end Skein
