import Mathlib.Logic.Relation
import Skein.Loading
import Skein.Proofs.Linking

/-!
# What counts when a story is opened

Up to seven values say what a story is opened from, and some of them point to files. For the script,
for the title and for the start there is an order in which the values count, and each of the three
orders is applied by itself. `Opening.Opens` says what comes of it, stage by stage, where the first
stage that fails decides how the opening ends.

A value that does not count cannot be noticed. `Opening.LosingEdit` lists the changes of such
values, and a program opens the changed opening exactly as it opens the other one, whatever it does
when it reads a file. Nor can files be noticed at which nothing reads: `Opening.reads` says which
ones are read, and the file of a script is among them only if the script counts. The file of a
manifest is read even if everything that the manifest may say is given otherwise.

## Main definitions

* `FileTexts`, `FileTexts.reader` — files as a function, and a program that reads them
* `Opening.source`, `Opening.settings` — where the script is taken from, and what is said about the
  story
* `Opening.Finds`, `Settings.Opens`, `Opening.Opens` — how the search for a manifest ends, what
  becomes of a script, and how an opening ends
* `Opening.outcome`, `Opening.reads` — the end of an opening, and the paths at which it reads
* `Opening.SameValues`, `Opening.LosingEdit` — openings in which the same values count, and a change
  of one value that does not count

## Main results

* `Opening.load_reader` — an opening reads at paths that are known beforehand, and does nothing else
* `Opening.opens_iff` — it ends as is described
* `Opening.SameValues.outcome_eq`, `Opening.LosingEdit.load_eq`, `Opening.outcome_congr` — what does
  not count cannot be noticed
* `Opening.load_exact` — all of this together
-/

namespace Skein

/-- The texts of files by their paths, or why they cannot be read. -/
abbrev FileTexts := String → Except FileError String

/-- A reader of files that does something with each path before it reads there. -/
def FileTexts.reader {m : Type → Type} [Monad m] (files : FileTexts) (note : String → m Unit)
    (path : String) : m (Except FileError String) := do
  note path
  return files path

/-! ### Which values count -/

/-- The first of several values that is given; they are listed in the order in which they count. -/
def firstGiven {α : Type} (candidates : List (Option α)) : Option α :=
  candidates.findSome? id

/-- Where a script is taken from. -/
inductive ScriptSource where
  /-- The script itself. -/
  | given (script : String)
  /-- The file at a path. -/
  | file (path : String)

namespace ScriptSource

/-- The script that is taken from where it is, if it can be had. -/
def text (files : FileTexts) : Option ScriptSource → Except LoadError String
  | none => .error .missingScript
  | some (given script) => .ok script
  | some (file path) => (files path).mapError .file

/-- The paths at which is read to have a script. -/
def reads : Option ScriptSource → List String
  | some (file path) => [path]
  | _ => []

end ScriptSource

/-- What is said about a story besides its script. -/
structure Settings where
  /-- The title that is shown instead of the script's own. -/
  title : Option String
  /-- The title of the passage in which the story begins. -/
  start : Option String
  /-- How many listeners are told of changes of the inventory. -/
  listeners : Nat

namespace Opening

/-- **Where the script is taken from** if it is known which manifest counts. -/
def source (o : Opening) (manifest : Option Manifest) : Option ScriptSource :=
  firstGiven [o.script.map .given, o.scriptPath.map .file,
    manifest.map fun manifest => .file manifest.script]

/-- **What is said about the story** if it is known which manifest counts. -/
def settings (o : Opening) (manifest : Option Manifest) : Settings where
  title := firstGiven [o.title, manifest.bind Manifest.title]
  start := firstGiven [o.start, manifest.bind Manifest.start]
  listeners := o.listeners

/-- How the search for a manifest ends. One that is given itself counts more than a path. -/
inductive Finds (files : FileTexts) (o : Opening) : Except LoadError (Option Manifest) → Prop where
  /-- A manifest is given itself. -/
  | given {manifest : Manifest} : o.manifest = some manifest → Finds files o (.ok (some manifest))
  /-- There is none. -/
  | nowhere : o.manifest = none → o.manifestPath = none → Finds files o (.ok none)
  /-- A manifest is in a file. -/
  | read {path text : String} {manifest : Manifest} :
    o.manifest = none → o.manifestPath = some path → files path = .ok text →
      Manifest.read text = some manifest → Finds files o (.ok (some (manifest.relativeTo path)))
  /-- The file of a manifest cannot be read. -/
  | unreadable {path : String} {e : FileError} :
    o.manifest = none → o.manifestPath = some path → files path = .error e →
      Finds files o (.error (.file e))
  /-- In the file of a manifest is something else. -/
  | malformed {path text : String} :
    o.manifest = none → o.manifestPath = some path → files path = .ok text →
      Manifest.read text = none → Finds files o (.error .malformedManifest)

end Opening

/-! ### How an opening ends -/

/-- A story under another title, if one is given. -/
abbrev Story.shownAs (s : Story) (title : Option String) : Story :=
  { s with title := title.getD s.title }

/-- **How a script is opened** if it is known what is said about the story. -/
inductive Settings.Opens (w : Settings) (script : String) : Except LoadError Game → Prop where
  /-- The script has a fault. -/
  | fault {e : Script.Error} : Script.read script = .error e → Opens w script (.error (.script e))
  /-- The passages do not fit together. -/
  | linking {draft : Draft} {e : LinkingError} :
    Script.read script = .ok draft → Story.ofDraft draft = .error e →
      Opens w script (.error (.linking e))
  /-- No passage has the title of the start. -/
  | startNotFound {draft : Draft} {story : Story} {start : String} :
    Script.read script = .ok draft → Story.ofDraft draft = .ok story → w.start = some start →
      (∀ p, (story.passage p).title ≠ start) → Opens w script (.error (.startNotFound start))
  /-- The story begins nowhere. -/
  | unplaced {draft : Draft} {story : Story} :
    Script.read script = .ok draft → Story.ofDraft draft = .ok story → w.start = none →
      Opens w script (.ok ⟨story.shownAs w.title, { listeners := w.listeners }⟩)
  /-- The story begins in the passage with the title of the start. -/
  | placed {draft : Draft} {story : Story} {start : String} {p : story.PassageId} :
    Script.read script = .ok draft → Story.ofDraft draft = .ok story → w.start = some start →
      (story.passage p).title = start →
      Opens w script (.ok ⟨story.shownAs w.title, { start := some p, listeners := w.listeners }⟩)

/-- **How an opening ends.** What fails first is reported. -/
inductive Opening.Opens (files : FileTexts) (o : Opening) : Except LoadError Game → Prop where
  /-- The search for a manifest fails. -/
  | manifest {e : LoadError} : o.Finds files (.error e) → Opens files o (.error e)
  /-- There is no script, or it cannot be read. -/
  | script {manifest : Option Manifest} {e : LoadError} : o.Finds files (.ok manifest) →
    ScriptSource.text files (o.source manifest) = .error e → Opens files o (.error e)
  /-- There is a script to be opened. -/
  | opened {manifest : Option Manifest} {script : String} {r : Except LoadError Game} :
    o.Finds files (.ok manifest) → ScriptSource.text files (o.source manifest) = .ok script →
      (o.settings manifest).Opens script r → Opens files o r

namespace Opening

/-! ### Programs that only read -/

/-- How the search for a manifest ends in a program that reads files and does nothing else. -/
def found (files : FileTexts) (o : Opening) : Except LoadError (Option Manifest) :=
  Id.run (o.findManifest fun path => pure (files path))

/-- How an opening ends in a program that reads files and does nothing else. -/
def outcome (files : FileTexts) (o : Opening) : Except LoadError Game :=
  Id.run (o.load fun path => pure (files path))

/-- The paths at which is read to have a manifest. -/
def manifestReads (o : Opening) : List String :=
  match o.manifest with
  | some _ => []
  | none => o.manifestPath.toList

/-- **The paths at which is read**, in order: that of a manifest, and then that of the script that
counts. -/
def reads (files : FileTexts) (o : Opening) : List String :=
  o.manifestReads ++
    match o.found files with
    | .error _ => []
    | .ok manifest => ScriptSource.reads (o.source manifest)

variable {files files' : FileTexts} {o o' : Opening} {manifest manifest' : Option Manifest}

theorem Finds.eq {r : Except LoadError (Option Manifest)} (h : o.Finds files r) :
    o.found files = r := by
  cases h with
  | given h => simp [found, findManifest, h]
  | nowhere h hpath => simp [found, findManifest, h, hpath]
  | read h hpath htext hread =>
    simp [found, findManifest, h, hpath, Manifest.load, htext, Manifest.ofText, hread, Except.map]
  | unreadable h hpath herror =>
    simp [found, findManifest, h, hpath, Manifest.load, herror, Except.map]
  | malformed h hpath htext hread =>
    simp [found, findManifest, h, hpath, Manifest.load, htext, Manifest.ofText, hread, Except.map]

theorem exists_finds (files : FileTexts) (o : Opening) : ∃ r, o.Finds files r := by
  cases h : o.manifest with
  | some manifest => exact ⟨_, .given h⟩
  | none =>
    cases hpath : o.manifestPath with
    | none => exact ⟨_, .nowhere h hpath⟩
    | some path =>
      cases htext : files path with
      | error e => exact ⟨_, .unreadable h hpath htext⟩
      | ok text =>
        cases hread : Manifest.read text with
        | none => exact ⟨_, .malformed h hpath htext hread⟩
        | some manifest => exact ⟨_, .read h hpath htext hread⟩

/-- A relation that holds of something, and only of `a`, says of everything that it is `a`. -/
theorem iff_eq_of_unique {α : Type} {P : α → Prop} {a r : α} (hunique : ∀ r, P r → a = r)
    (hexists : ∃ r, P r) : P r ↔ a = r := by
  refine ⟨hunique r, ?_⟩
  rintro rfl
  obtain ⟨r, hr⟩ := hexists
  rwa [hunique r hr]

theorem finds_iff {r : Except LoadError (Option Manifest)} :
    o.Finds files r ↔ o.found files = r :=
  iff_eq_of_unique (fun _ => Finds.eq) (exists_finds files o)

section Reader

variable {m : Type → Type} [Monad m] [LawfulMonad m] {note : String → m Unit}

/-- The search for a manifest reads at the paths that are known beforehand. -/
theorem findManifest_reader :
    o.findManifest (files.reader note) = do
      forM o.manifestReads note
      return o.found files := by
  cases h : o.manifest with
  | some manifest => simp [findManifest, manifestReads, found, h]
  | none =>
    cases hpath : o.manifestPath with
    | none => simp [findManifest, manifestReads, found, h, hpath]
    | some path =>
      cases htext : files path with
      | error e =>
        simp [findManifest, manifestReads, found, h, hpath, Manifest.load, FileTexts.reader, htext]
      | ok text =>
        simp [findManifest, manifestReads, found, h, hpath, Manifest.load, FileTexts.reader, htext]

/-- A script is read where it is taken from. -/
theorem findScript_reader :
    o.findScript (files.reader note) manifest = do
      forM (ScriptSource.reads (o.source manifest)) note
      return ScriptSource.text files (o.source manifest) := by
  cases hscript : o.script with
  | some script =>
    simp [findScript, source, firstGiven, ScriptSource.reads, ScriptSource.text, hscript]
  | none =>
    cases hpath : o.scriptPath with
    | some path =>
      simp [findScript, source, firstGiven, ScriptSource.reads, ScriptSource.text, hscript, hpath,
        FileTexts.reader]
    | none =>
      cases manifest with
      | none =>
        simp [findScript, source, firstGiven, ScriptSource.reads, ScriptSource.text, hscript, hpath]
      | some manifest =>
        simp [findScript, source, firstGiven, ScriptSource.reads, ScriptSource.text, hscript, hpath,
          FileTexts.reader]

theorem load_reader_eq_bind :
    o.load (files.reader note) = do
      forM (o.reads files) note
      return o.found files >>= fun manifest =>
        ScriptSource.text files (o.source manifest) >>= o.assemble manifest := by
  rw [load, findManifest_reader, reads, List.forM_append]
  cases o.found files with
  | error e => simp [bind, Except.bind]
  | ok manifest =>
    simp only [bind_assoc, pure_bind, findScript_reader]
    cases hscript : ScriptSource.text files (o.source manifest) with
    | error e => simp [bind, Except.bind, hscript]
    | ok script => simp [bind, Except.bind, hscript]

/-- An opening ends as its stages do, one after the other. -/
theorem outcome_eq_bind : o.outcome files = o.found files >>= fun manifest =>
    ScriptSource.text files (o.source manifest) >>= o.assemble manifest := by
  have hpure : (fun path => pure (files path)) = files.reader fun _ => (pure () : Id Unit) := rfl
  rw [outcome, hpure, load_reader_eq_bind]
  simp

/-- **An opening does nothing but read**, at paths that are known beforehand. -/
theorem load_reader :
    o.load (files.reader note) = do
      forM (o.reads files) note
      return o.outcome files := by
  rw [outcome_eq_bind, load_reader_eq_bind]

end Reader

/-! ### From a script to a game -/

/-- Of two values, the second one counts if the first is not given. -/
theorem firstGiven_pair {α : Type} (a b : Option α) : firstGiven [a, b] = (a <|> b) := by
  cases a with
  | some a => rfl
  | none =>
    cases b with
    | none => rfl
    | some b => rfl

/-- A script that fits together is assembled according to what is said about the story. -/
theorem assemble_eq {script : String} {draft : Draft} {story : Story}
    (hread : Script.read script = .ok draft) (hlink : Story.ofDraft draft = .ok story) :
    o.assemble manifest script =
      match (o.settings manifest).start with
      | none => .ok ⟨story.shownAs (o.settings manifest).title, { listeners := o.listeners }⟩
      | some start =>
        match story.passageId? start with
        | none => .error (.startNotFound start)
        | some p =>
          .ok ⟨story.shownAs (o.settings manifest).title,
            { start := some p, listeners := o.listeners }⟩ := by
  rw [assemble, hread, ← firstGiven_pair, ← firstGiven_pair]
  simp only [bind, Except.bind, Except.mapError, hlink, settings]
  cases firstGiven [o.start, manifest.bind Manifest.start] with
  | none => rfl
  | some start =>
    simp only [Play.setStart, Story.find, Story.passageId?]
    cases story.passages.findFinIdx? (·.title = start) with
    | none => rfl
    | some p => rfl

theorem assemble_eq_of_opens {script : String} {r : Except LoadError Game}
    (h : (o.settings manifest).Opens script r) : o.assemble manifest script = r := by
  cases h with
  | fault hread => simp [assemble, hread, bind, Except.bind, Except.mapError]
  | linking hread hlink => simp [assemble, hread, hlink, bind, Except.bind, Except.mapError]
  | startNotFound hread hlink hstart hfound =>
    have hnone := Option.eq_none_iff_forall_ne_some.2 fun p hp =>
      hfound p (Story.passageId?_eq_some_iff.1 hp)
    simp only [assemble_eq hread hlink, hstart, hnone]
  | unplaced hread hlink hstart =>
    rw [assemble_eq hread hlink, hstart]
    rfl
  | placed hread hlink hstart hp =>
    simp only [assemble_eq hread hlink, hstart, Story.passageId?_eq_some_iff.2 hp]
    rfl

theorem exists_opens_settings (w : Settings) (script : String) : ∃ r, w.Opens script r := by
  cases hread : Script.read script with
  | error e => exact ⟨_, .fault hread⟩
  | ok draft =>
    cases hlink : Story.ofDraft draft with
    | error e => exact ⟨_, .linking hread hlink⟩
    | ok story =>
      cases hstart : w.start with
      | none => exact ⟨_, .unplaced hread hlink hstart⟩
      | some start =>
        by_cases hfound : ∃ p, (story.passage p).title = start
        · obtain ⟨p, hp⟩ := hfound
          exact ⟨_, .placed hread hlink hstart hp⟩
        · exact ⟨_, .startNotFound hread hlink hstart (not_exists.1 hfound)⟩

theorem opens_settings_iff {script : String} {r : Except LoadError Game} :
    (o.settings manifest).Opens script r ↔ o.assemble manifest script = r :=
  iff_eq_of_unique (fun _ => assemble_eq_of_opens)
    (exists_opens_settings (o.settings manifest) script)

theorem Opens.eq {r : Except LoadError Game} (h : o.Opens files r) : o.outcome files = r := by
  rw [outcome_eq_bind]
  cases h with
  | manifest hfind =>
    rw [hfind.eq]
    rfl
  | script hfind hscript => simp [hfind.eq, hscript, bind, Except.bind]
  | opened hfind hscript hopens =>
    simpa [hfind.eq, hscript, bind, Except.bind] using opens_settings_iff.1 hopens

theorem exists_opens (files : FileTexts) (o : Opening) : ∃ r, o.Opens files r := by
  obtain ⟨found, hfind⟩ := exists_finds files o
  cases found with
  | error e => exact ⟨_, .manifest hfind⟩
  | ok manifest =>
    cases hscript : ScriptSource.text files (o.source manifest) with
    | error e => exact ⟨_, .script hfind hscript⟩
    | ok script =>
      obtain ⟨r, hopens⟩ := exists_opens_settings (o.settings manifest) script
      exact ⟨r, .opened hfind hscript hopens⟩

/-- **An opening ends in the one way that is described.** -/
theorem opens_iff {r : Except LoadError Game} : o.Opens files r ↔ o.outcome files = r :=
  iff_eq_of_unique (fun _ => Opens.eq) (exists_opens files o)

/-! ### Values that do not count -/

/-- Two scripts, as far as they can be had, that are the same, or differ only in a title which is
not shown because another one is. -/
inductive SameScript (title : Option String) :
    Except LoadError String → Except LoadError String → Prop where
  /-- They are the same. -/
  | same (r : Except LoadError String) : SameScript title r r
  /-- They differ only in a title. -/
  | retitled {script script' shown own : String} {draft : Draft} :
    title = some shown → Script.read script = .ok draft →
      Script.read script' = .ok { draft with title := own } →
      SameScript title (.ok script) (.ok script')

/-- **The same values count** in two openings, each with its own files. -/
inductive SameValues (files files' : FileTexts) (o o' : Opening) : Prop where
  /-- The search for a manifest fails alike. -/
  | failed {e : LoadError} : o.Finds files (.error e) → o'.Finds files' (.error e) →
    SameValues files files' o o'
  /-- Whatever manifests are found, the script is the same and the same is said about the story. -/
  | found {manifest manifest' : Option Manifest} :
    o.Finds files (.ok manifest) → o'.Finds files' (.ok manifest') →
      o.settings manifest = o'.settings manifest' →
      SameScript (o.settings manifest).title (ScriptSource.text files (o.source manifest))
        (ScriptSource.text files' (o'.source manifest')) → SameValues files files' o o'

/-- **A change of one value that does not count.** -/
inductive LosingEdit (o : Opening) : Opening → Prop where
  /-- The path of a manifest, where a manifest is given. -/
  | manifestPath {manifest : Manifest} (path : Option String) : o.manifest = some manifest →
    LosingEdit o { o with manifestPath := path }
  /-- The path of a script, where a script is given. -/
  | scriptPath {script : String} (path : Option String) : o.script = some script →
    LosingEdit o { o with scriptPath := path }
  /-- The path in a manifest, where a script or the path of one is given. -/
  | manifestScript {manifest : Manifest} (path : String) : o.manifest = some manifest →
    o.script ≠ none ∨ o.scriptPath ≠ none →
      LosingEdit o { o with manifest := some { manifest with script := path } }
  /-- The title in a manifest, where a title is given. -/
  | manifestTitle {manifest : Manifest} (title : Option String) : o.manifest = some manifest →
    o.title ≠ none → LosingEdit o { o with manifest := some { manifest with title := title } }
  /-- The start in a manifest, where a start is given. -/
  | manifestStart {manifest : Manifest} (start : Option String) : o.manifest = some manifest →
    o.start ≠ none → LosingEdit o { o with manifest := some { manifest with start := start } }
  /-- The title in a script, where a title is given by itself or in a manifest. -/
  | scriptTitle {script script' shown own : String} {draft : Draft} : o.script = some script →
    firstGiven [o.title, o.manifest.bind Manifest.title] = some shown →
      Script.read script = .ok draft → Script.read script' = .ok { draft with title := own } →
      LosingEdit o { o with script := some script' }

/-- The story of a draft with another title. -/
theorem ofDraft_retitled (d : Draft) (title : String) :
    Story.ofDraft { d with title := title } =
      (Story.ofDraft d).map fun story => { story with title := title } := by
  cases hrepeated : repeatedTitle? [] d.titles with
  | some repeated =>
    have hsame : repeatedTitle? [] { d with title := title }.titles = some repeated := hrepeated
    rw [Story.ofDraft_of_repeated hrepeated, Story.ofDraft_of_repeated hsame]
    rfl
  | none =>
    have hnodup := Story.repeatedTitle?_titles_eq_none_iff.1 hrepeated
    have hsame : { d with title := title }.titles.Nodup := hnodup
    rw [Story.ofDraft_of_nodup hnodup, Story.ofDraft_of_nodup hsame]
    change (d.placedLinks.mapM d.resolve).map _ = _
    cases d.placedLinks.mapM d.resolve with
    | error e => rfl
    | ok links => rfl

/-- **A title that is not shown does not matter.** -/
theorem opens_settings_retitled {w : Settings} {script script' shown own : String} {draft : Draft}
    {r : Except LoadError Game} (htitle : w.title = some shown)
    (hread : Script.read script = .ok draft)
    (hread' : Script.read script' = .ok { draft with title := own }) (h : w.Opens script r) :
    w.Opens script' r := by
  obtain ⟨title, start, listeners⟩ := w
  obtain rfl : title = some shown := htitle
  have hlink' := ofDraft_retitled draft own
  cases h with
  | fault hfault =>
    rw [hread] at hfault
    cases hfault
  | linking hdraft hlink =>
    obtain rfl := Except.ok.inj (hread.symm.trans hdraft)
    rw [hlink] at hlink'
    exact .linking hread' hlink'
  | startNotFound hdraft hlink hstart hfound =>
    obtain rfl := Except.ok.inj (hread.symm.trans hdraft)
    rw [hlink] at hlink'
    exact .startNotFound hread' hlink' hstart hfound
  | unplaced hdraft hlink hstart =>
    obtain rfl := Except.ok.inj (hread.symm.trans hdraft)
    rw [hlink] at hlink'
    -- The stories differ in a title that neither of them is shown with.
    have hopens := Settings.Opens.unplaced (w := ⟨some shown, start, listeners⟩)
      hread' hlink' hstart
    exact hopens
  | placed hdraft hlink hstart hp =>
    obtain rfl := Except.ok.inj (hread.symm.trans hdraft)
    rw [hlink] at hlink'
    have hopens := Settings.Opens.placed (w := ⟨some shown, start, listeners⟩)
      hread' hlink' hstart hp
    exact hopens

/-- What becomes of a script is decided by what is said about the story. -/
theorem assemble_congr {script : String} (h : o.settings manifest = o'.settings manifest') :
    o'.assemble manifest' script = o.assemble manifest script :=
  opens_settings_iff.1 (h ▸ opens_settings_iff.2 rfl)

/-- The title of a script does not matter to what becomes of it if another one is shown. -/
theorem assemble_retitled {script script' shown own : String} {draft : Draft}
    (hsettings : o.settings manifest = o'.settings manifest')
    (htitle : (o.settings manifest).title = some shown) (hread : Script.read script = .ok draft)
    (hread' : Script.read script' = .ok { draft with title := own }) :
    o'.assemble manifest' script' = o.assemble manifest script := by
  rw [assemble_congr hsettings]
  exact opens_settings_iff.1
    (opens_settings_retitled htitle hread hread' (opens_settings_iff.2 rfl))

theorem bind_assemble_eq {r r' : Except LoadError String}
    (hsettings : o.settings manifest = o'.settings manifest')
    (hscript : SameScript (o.settings manifest).title r r') :
    r' >>= o'.assemble manifest' = r >>= o.assemble manifest := by
  cases hscript with
  | same r =>
    cases r with
    | error e => simp only [bind, Except.bind]
    | ok script => simpa only [bind, Except.bind] using assemble_congr hsettings
  | retitled htitle hread hread' =>
    simpa only [bind, Except.bind] using assemble_retitled hsettings htitle hread hread'

/-- **Openings in which the same values count end alike.** -/
theorem SameValues.outcome_eq (h : SameValues files files' o o') :
    o'.outcome files' = o.outcome files := by
  rw [outcome_eq_bind, outcome_eq_bind]
  cases h with
  | failed hfind hfind' =>
    rw [hfind.eq, hfind'.eq]
    rfl
  | found hfind hfind' hsettings hscript =>
    rw [hfind.eq, hfind'.eq]
    exact bind_assemble_eq hsettings hscript

/-- The search for a manifest ends alike whatever is in other files. -/
theorem found_congr (h : ∀ path ∈ o.manifestReads, files' path = files path) :
    o.found files' = o.found files := by
  cases hmanifest : o.manifest with
  | some manifest => simp [found, findManifest, hmanifest]
  | none =>
    cases hpath : o.manifestPath with
    | none => simp [found, findManifest, hmanifest, hpath]
    | some path =>
      have hmem : path ∈ o.manifestReads := by simp [manifestReads, hmanifest, hpath]
      simp [found, findManifest, hmanifest, hpath, Manifest.load, h path hmem]

/-- A script is the same whatever is in other files. -/
theorem text_congr {source : Option ScriptSource}
    (h : ∀ path ∈ ScriptSource.reads source, files' path = files path) :
    ScriptSource.text files' source = ScriptSource.text files source := by
  cases source with
  | none => rfl
  | some source =>
    cases source with
    | given script => rfl
    | file path =>
      have hmem : path ∈ ScriptSource.reads (some (.file path)) := List.mem_singleton_self path
      rw [ScriptSource.text, ScriptSource.text, h path hmem]

/-- **An opening ends alike whatever is in files at which it does not read.** -/
theorem outcome_congr (h : ∀ path ∈ o.reads files, files' path = files path) :
    o.reads files' = o.reads files ∧ o.outcome files' = o.outcome files := by
  obtain ⟨hmanifest, hscript⟩ := List.forall_mem_append.1 h
  have hfound : o.found files' = o.found files := found_congr hmanifest
  refine ⟨by rw [reads, reads, hfound], ?_⟩
  rw [outcome_eq_bind, outcome_eq_bind, hfound]
  cases hfind : o.found files with
  | error e => rfl
  | ok manifest =>
    rw [hfind] at hscript
    simp [bind, Except.bind, text_congr hscript]

section Edit

variable {m : Type → Type} [Monad m] [LawfulMonad m]
  {readText : String → m (Except FileError String)}

/-- A manifest that is given is not searched. -/
theorem load_of_manifest {given : Manifest} (h : o.manifest = some given) :
    o.load readText = do
      match ← o.findScript readText (some given) with
      | .error e => return .error e
      | .ok script => return o.assemble (some given) script := by
  rw [load, findManifest, h]
  exact pure_bind _ _

/-- A script that is given is not read. -/
theorem load_of_script {script : String} (h : o.script = some script) :
    o.load readText = do
      match ← o.findManifest readText with
      | .error e => return .error e
      | .ok manifest => return o.assemble manifest script := by
  rw [load]
  refine bind_congr fun found => ?_
  cases found with
  | error e => rfl
  | ok manifest =>
    simp only [findScript, h]
    exact pure_bind _ _

theorem load_congr_of_manifest {given given' : Manifest} (h : o.manifest = some given)
    (h' : o'.manifest = some given')
    (hscript : o'.findScript readText (some given') = o.findScript readText (some given))
    (hsettings : o.settings (some given) = o'.settings (some given')) :
    o'.load readText = o.load readText := by
  rw [load_of_manifest h, load_of_manifest h', hscript]
  simp only [assemble_congr hsettings]

theorem load_congr_of_script {script script' : String} (h : o.script = some script)
    (h' : o'.script = some script') (hfind : o'.findManifest readText = o.findManifest readText)
    (hassemble : ∀ manifest, o.manifest = none ∨ o.manifest = manifest →
      o'.assemble manifest script' = o.assemble manifest script) :
    o'.load readText = o.load readText := by
  rw [load_of_script h, load_of_script h', hfind]
  cases hmanifest : o.manifest with
  | some given =>
    simp only [findManifest, hmanifest, pure_bind, hassemble (some given) (.inr hmanifest)]
  | none => simp only [hassemble _ (.inl hmanifest)]

/-- **A change of a value that does not count cannot be noticed**, by a program of any kind. -/
theorem LosingEdit.load_eq (h : LosingEdit o o') : o'.load readText = o.load readText := by
  cases h with
  | manifestPath path h => exact load_congr_of_manifest h h rfl rfl
  | scriptPath path h =>
    rw [load_of_script h, load_of_script (o := { o with scriptPath := path }) h]
    rfl
  | manifestScript path h hgiven =>
    refine load_congr_of_manifest h rfl ?_ rfl
    simp only [findScript]
    cases hscript : o.script with
    | some script => rfl
    | none =>
      obtain ⟨path, hpath⟩ := Option.ne_none_iff_exists'.1 (hgiven.resolve_left (· hscript))
      simp [hpath]
  | manifestTitle title h hgiven =>
    obtain ⟨title, htitle⟩ := Option.ne_none_iff_exists'.1 hgiven
    refine load_congr_of_manifest h rfl rfl ?_
    simp [settings, firstGiven, htitle]
  | manifestStart start h hgiven =>
    obtain ⟨start, hstart⟩ := Option.ne_none_iff_exists'.1 hgiven
    refine load_congr_of_manifest h rfl rfl ?_
    simp [settings, firstGiven, hstart]
  | @scriptTitle script script' shown own draft h htitle hread hread' =>
    refine load_congr_of_script h rfl rfl fun manifest hmanifest => ?_
    have hshown : (o.settings manifest).title = some shown := by
      rcases hmanifest with hnone | rfl
      · -- No manifest is given, so the title is; a manifest in a file cannot outdo it.
        have hgiven : o.title = some shown := by simpa [firstGiven_pair, hnone] using htitle
        simp [settings, firstGiven_pair, hgiven]
      · exact htitle
    exact assemble_retitled rfl hshown hread hread'

end Edit

/-! ### Main result -/

/-- **What counts wins, and what does not count cannot be noticed.** An opening reads at known
paths, whatever is done before each read, and ends in the one way that is described. Openings in
which the same values count end alike, a value that does not count can be changed, and so can every
file at which nothing is read. -/
theorem load_exact {m : Type → Type} [Monad m] [LawfulMonad m] (note : String → m Unit)
    (files : FileTexts) (o : Opening) :
    (o.load (files.reader note) = do
      forM (o.reads files) note
      return o.outcome files) ∧
    (∀ r, o.found files = r ↔ o.Finds files r) ∧
    (∀ r, o.outcome files = r ↔ o.Opens files r) ∧
    (∀ files' o', SameValues files files' o o' → o'.outcome files' = o.outcome files) ∧
    (∀ o', Relation.ReflTransGen LosingEdit o o' →
      ∀ readText : String → m (Except FileError String), o'.load readText = o.load readText) ∧
    ∀ files' : FileTexts, (∀ path ∈ o.reads files, files' path = files path) →
      o.load (files'.reader note) = o.load (files.reader note) := by
  refine ⟨load_reader, fun r => finds_iff.symm, fun r => opens_iff.symm,
    fun files' o' h => h.outcome_eq, fun o' h readText => ?_, fun files' h => ?_⟩
  · -- Each change of the run keeps the program.
    induction h with
    | refl => rfl
    | tail _ hedit ih => rw [hedit.load_eq, ih]
  · obtain ⟨hreads, houtcome⟩ := outcome_congr h
    rw [load_reader, load_reader, hreads, houtcome]

/-! ### A slipway -/

/-- An opening by the path of a script, with a manifest that names another one. -/
def slipway : Opening where
  scriptPath := some "slipway.twee"
  manifest := some { script := "wreck.twee", start := some "Hold" }
  start := some "Slipway"

/-- The same with a manifest that says something else. -/
def otherSlipway : Opening :=
  { slipway with manifest := some { script := "mole.twee", start := none } }

/-- The same by the script itself. -/
def writtenSlipway : Opening where
  script := some ":: Slipway\nFog."
  start := some "Slipway"

/-- Files, one of them at the path of the script. -/
def ashore : FileTexts := fun path =>
  if path = "slipway.twee" then .ok ":: Slipway\nFog." else .error .notFound

/-- The same with a file at the path that does not count. -/
def salvaged : FileTexts := fun path =>
  if path = "wreck.twee" then .ok ":: Hold\nRust." else ashore path

/-- Keep a list of the paths at which is read. -/
def keepLog (path : String) : StateM (List String) Unit :=
  modify (path :: ·)

/-- An opening by the path of a manifest, under another title than the manifest gives. -/
def charted : Opening where
  manifestPath := some "sea/chart.ron"
  title := some "Fog"

/-- What is written in the file of the manifest. -/
def chartText : String :=
  "(script: \"slipway.twee\", start: Some(\"Slipway\"), title: Some(\"Chart\"))"

/-- What the manifest says. -/
def chart : Manifest :=
  { script := "slipway.twee", start := some "Slipway", title := some "Chart" }

/-- Files, one of them a manifest, beside which the script lies that it names. -/
def atSea : FileTexts := fun path =>
  if path = "sea/chart.ron" then .ok chartText
  else if path = "sea/slipway.twee" then .ok ":: Slipway\nFog."
  else .error .notFound

/-- The same opening by the path of the script, with everything that counts given directly. -/
def direct : Opening where
  scriptPath := some "sea/slipway.twee"
  start := some "Slipway"
  title := some "Fog"

/-- At the slipway the path that is given counts, so the manifest may name any other script, which
may be in a file or not, and the text of the script may be given instead of its path. A manifest in
a file is read first, and then the script beside it; the same opens if all that counts is given
directly, the manifest's own title not being part of it. Where the file is missing, the opening
fails. -/
theorem load_exact_slipway :
    (Relation.ReflTransGen LosingEdit slipway otherSlipway ∧
      otherSlipway.load (ashore.reader keepLog) = slipway.load (ashore.reader keepLog)) ∧
    ((∀ path ∈ slipway.reads ashore, salvaged path = ashore path) ∧
      slipway.load (salvaged.reader keepLog) = slipway.load (ashore.reader keepLog)) ∧
    (SameValues ashore (fun _ => .error .notFound) slipway writtenSlipway ∧
      writtenSlipway.outcome (fun _ => .error .notFound) = slipway.outcome ashore) ∧
    (Manifest.read chartText = some chart ∧
      charted.found atSea = .ok (some { chart with script := "sea/slipway.twee" }) ∧
      charted.reads atSea = ["sea/chart.ron", "sea/slipway.twee"] ∧
      direct.outcome atSea = charted.outcome atSea) ∧
    charted.outcome ashore = .error (.file .notFound) := by
  obtain ⟨-, -, -, hvalues, hedits, hfiles⟩ := load_exact keepLog ashore slipway
  have hscript := LosingEdit.manifestScript (o := slipway) "mole.twee" rfl (.inr (by decide))
  have hstart := LosingEdit.manifestStart
    (o := { slipway with manifest := some { script := "mole.twee", start := some "Hold" } })
    none rfl (by decide)
  have hrun : Relation.ReflTransGen LosingEdit slipway otherSlipway :=
    (Relation.ReflTransGen.single hscript).tail hstart
  have hsame : ∀ path ∈ slipway.reads ashore, salvaged path = ashore path := by
    have hreads : slipway.reads ashore = ["slipway.twee"] := rfl
    rw [hreads, List.forall_mem_singleton]
    rfl
  have hwritten : SameValues ashore (fun _ => .error .notFound) slipway writtenSlipway :=
    .found (.given rfl) (.nowhere rfl rfl) rfl (.same _)
  -- The manifest in the file, and what it says from the place where it lies.
  obtain ⟨-, hfound, -, hcharted, -⟩ := load_exact keepLog atSea charted
  have hread : Manifest.read chartText = some chart := by decide +kernel
  have hplace : chart.relativeTo "sea/chart.ron" = { chart with script := "sea/slipway.twee" } := by
    decide +kernel
  have hfinds : charted.Finds atSea (.ok (some { chart with script := "sea/slipway.twee" })) := by
    rw [← hplace]
    exact .read rfl rfl rfl hread
  have hchart := (hfound _).2 hfinds
  have hreads : charted.reads atSea = ["sea/chart.ron", "sea/slipway.twee"] := by
    rw [reads, hchart]
    rfl
  obtain ⟨-, -, hopens, -⟩ := load_exact keepLog ashore charted
  exact ⟨⟨hrun, hedits _ hrun _⟩, ⟨hsame, hfiles _ hsame⟩, ⟨hwritten, hvalues _ _ hwritten⟩,
    ⟨hread, hchart, hreads, hcharted _ _ (.found hfinds (.nowhere rfl rfl) rfl (.same _))⟩,
    (hopens _).2 (.manifest (.unreadable rfl rfl rfl))⟩

/-- The opening succeeds. -/
example :
    (slipway.outcome ashore).toOption.map (fun game => game.play.start.isSome) = some true := by
  decide +kernel

end Opening

end Skein
