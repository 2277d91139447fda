import Skein.Search
import Skein.Story

/-!
# Checking a story

What can be said about a story without playing it. Defects are contents that no player can ever
satisfy: conditions on items or facts that no effect provides, and effects that provide something
without a name. Warnings concern the shape of the graph: passages that cannot be reached, passages
without links, and one-time passages that nothing links to.

## Main definitions

* `Defect`, `Warning` — the findings and their wording
* `Story.defects` — all defects, in order
* `Story.reachable` — the passages that links lead to from a given one, whatever their conditions
* `Story.warnings` — all warnings, in order
-/

namespace Skein

/-! ### Defects -/

/-- A content that no player can ever satisfy. -/
inductive Defect where
  /-- An effect of a passage provides something without a name. -/
  | emptyName (passage : String) (kind : Effect.Kind)
  /-- A condition in a passage asks for something that no effect provides. -/
  | unprovided (passage : String) (kind : Condition.Kind) (name : String)
  deriving DecidableEq

/-- The kind of effect that provides what a kind of condition asks for. -/
def Condition.Kind.provider? : Condition.Kind → Option Effect.Kind
  | hasItem => some .addItem
  | fact => some .addFact
  | hasMoney => none

/-- The word for what a kind of condition asks for. -/
def Condition.Kind.noun : Condition.Kind → String
  | hasItem => "item"
  | fact => "fact"
  | hasMoney => "money"

/-- The wording of a defect. -/
def Defect.message : Defect → String
  | emptyName passage kind =>
    "Passage '" ++ passage ++ "': " ++ kind.keyword ++ " with an empty name"
  | unprovided passage kind name =>
    "Passage '" ++ passage ++ "': required " ++ kind.noun ++ " '" ++ name ++
      "' is never provided by " ++ ((kind.provider?.map Effect.Kind.keyword).getD "")

/-- The members of a list whose key was not `seen` and is not the key of an earlier member. -/
def firstByKey {α β : Type} [DecidableEq β] (key : α → β) (seen : List β) : List α → List α
  | [] => []
  | a :: rest =>
    if key a ∈ seen then firstByKey key seen rest
    else a :: firstByKey key (key a :: seen) rest

namespace Story

variable (s : Story)

/-- The effects of all passages that provide something without a name. -/
def emptyNames : List Defect :=
  s.passages.flatMap fun p =>
    let nameless := p.effects.filter fun e =>
      (e.kind = .addItem || e.kind = .addFact) && e.value = ""
    nameless.map fun e => .emptyName p.title e.kind

/-- Whether some effect provides a name, by the kind of effect that a condition asks for. -/
def isProvided (kind : Effect.Kind) (name : String) : Bool :=
  name ≠ "" && s.passages.any fun p => p.effects.contains ⟨kind, name⟩

/-- The conditions of a passage: first those of its text, then those of its links. -/
def conditionsOf (p : s.PassageId) : List Condition :=
  (s.passage p).segments.flatMap Segment.conditions ++
    (s.linksFrom p).flatMap fun l => (s.link l).conditions

/-- The conditions of the story with the titles of their passages, in order, that ask for something
that no effect provides. -/
def unprovidedMentions : List (String × Condition) :=
  (s.passageIds.flatMap fun p => (s.conditionsOf p).map fun c => ((s.passage p).title, c)).filter
    fun (_, c) =>
      match c.kind.provider? with
      | none => false
      | some kind => !s.isProvided kind c.value

/-- **All defects of a story**: first the effects without a name, then everything that is asked for
and never provided, once each, at its first mention. -/
def defects : List Defect :=
  s.emptyNames ++
    (firstByKey (fun mention : String × Condition => (mention.2.kind, mention.2.value)) []
      s.unprovidedMentions).map fun (title, c) => .unprovided title c.kind c.value

end Story

/-! ### Warnings -/

/-- A flaw in the shape of a story. -/
inductive Warning where
  /-- No links lead from the start to the passage. -/
  | unreachable (passage start : String)
  /-- The story has no start. -/
  | noStart
  /-- The passage has no links. -/
  | deadEnd (passage : String)
  /-- The one-time passage is no link's target. -/
  | orphan (passage : String)
  deriving DecidableEq

/-- The wording of a warning. -/
def Warning.message : Warning → String
  | unreachable passage start =>
    "Passage '" ++ passage ++ "' is not reachable from '" ++ start ++ "'"
  | noStart => "No start passage given; reachability not checked"
  | deadEnd passage => "Passage '" ++ passage ++ "' is a dead end (no links)"
  | orphan passage =>
    "Passage '" ++ passage ++ "' is tagged '" ++ Tag.once ++ "' but nothing links to it"

namespace Story

variable (s : Story)

/-- The passages that the links of a passage lead to. -/
def successors (p : s.PassageId) : List s.PassageId :=
  (s.linksFrom p).map fun l => (s.link l).target

/-- The passages that links lead to from a given one, that one included. Conditions and tags of the
links do not matter. -/
def reachable (start : s.PassageId) : List s.PassageId :=
  (explore (m := Id) (fun p => pure (s.successors p)) [start] s.passageIds).run

/-- The warnings about passages that cannot be reached. -/
def reachabilityWarnings : Option s.PassageId → List Warning
  | none => [.noStart]
  | some start =>
    (s.passageIds.filter fun p => !(s.reachable start).contains p).map fun p =>
      .unreachable (s.passage p).title (s.passage start).title

/-- The warnings about a single passage, however it is reached. -/
def passageWarnings (p : s.PassageId) : List Warning :=
  let passage := s.passage p
  (if (s.linksFrom p).isEmpty then [.deadEnd passage.title] else []) ++
    (if passage.isOneTime && !s.links.any (·.target = p) then [.orphan passage.title] else [])

/-- **All warnings about a story** that begins in the given passage. -/
def warnings (start : Option s.PassageId) : List Warning :=
  s.reachabilityWarnings start ++ s.passageIds.flatMap s.passageWarnings

end Story

end Skein
