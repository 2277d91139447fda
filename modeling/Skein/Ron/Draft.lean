import Skein.Draft
import Skein.Ron.Document
import Skein.Ron.Printer

/-!
# Drafts as RON

A stored draft is a record of records. Text and targets have to be given; lists and the heading of
a passage may be left out when they are empty. A record may bear the name of its type, fields may
come in any order but not twice, and fields that nobody knows are passed over.

## Main definitions

* `Ron.ofDraft` — a draft as a value, with all fields
* `Ron.draftShape` — what is expected of such a value
* `Ron.toDraft?` — the draft that a value stands for
* `Ron.writeDraft`, `Ron.readDraft` — the same for text
-/

namespace Skein

namespace Ron

/-! ### Encoding -/

/-- A list of texts as a value. -/
def ofStrings (l : List String) : Value :=
  .list (l.map .text)

/-- A condition as a value. -/
def ofCondition (c : Condition) : Value :=
  .record [
    ("positive", .flag c.positive),
    ("kind", .name c.kind.name),
    ("value", .text c.value)]

/-- An effect as a value. -/
def ofEffect (e : Effect) : Value :=
  .record [("kind", .name e.kind.name), ("value", .text e.value)]

/-- A segment as a value. -/
def ofSegment (s : Segment) : Value :=
  .record [("text", .text s.text), ("conditions", .list (s.conditions.map ofCondition))]

/-- A link as a value. -/
def ofLink (l : Draft.Link) : Value :=
  .record [
    ("text", .text l.text),
    ("target", .text l.target),
    ("conditions", .list (l.conditions.map ofCondition)),
    ("tags", ofStrings l.tags)]

/-- A passage as a value. -/
def ofPassage (p : Draft.Passage) : Value :=
  .record [
    ("title", .text p.title),
    ("header", .text p.header),
    ("tags", ofStrings p.tags),
    ("segments", .list (p.segments.map ofSegment)),
    ("macros", .list (p.effects.map ofEffect)),
    ("links", .list (p.links.map ofLink))]

/-- A draft as a value, with all fields. -/
def ofDraft (d : Draft) : Value :=
  .record [("title", .text d.title), ("passages", .list (d.passages.map ofPassage))]

/-! ### Shapes -/

/-- What is expected of a condition. -/
def conditionShape : Shape :=
  .record "Condition" [("positive", .flag), ("kind", .name), ("value", .text)]

/-- What is expected of an effect. -/
def effectShape : Shape :=
  .record "Macro" [("kind", .name), ("value", .text)]

/-- What is expected of a segment. -/
def segmentShape : Shape :=
  .record "Segment" [("text", .text), ("conditions", .list conditionShape)]

/-- What is expected of a link. -/
def linkShape : Shape :=
  .record "RawLink" [
    ("text", .text),
    ("target", .text),
    ("conditions", .list conditionShape),
    ("tags", .list .text)]

/-- What is expected of a passage. -/
def passageShape : Shape :=
  .record "RawPassage" [
    ("title", .text),
    ("header", .text),
    ("tags", .list .text),
    ("segments", .list segmentShape),
    ("macros", .list effectShape),
    ("links", .list linkShape)]

/-- What is expected of a draft. -/
def draftShape : Shape :=
  .record "RawStory" [("title", .text), ("passages", .list passageShape)]

/-! ### Decoding -/

/-- The fields of a record. -/
def fields? : Value → Option (List (String × Value))
  | .record fields => some fields
  | _ => none

/-- A field that has to be given. -/
def required {α : Type} (fields : List (String × Value)) (field : String)
    (decode : Value → Option α) : Option α :=
  (fields.lookup field).bind decode

/-- A field that may be left out. -/
def optional {α : Type} (fields : List (String × Value)) (field : String) (default : α)
    (decode : Value → Option α) : Option α :=
  match fields.lookup field with
  | none => some default
  | some value => decode value

/-- The text that a value stands for. -/
def toString? : Value → Option String
  | .text content => some content
  | _ => none

/-- The truth value that a value stands for. -/
def toBool? : Value → Option Bool
  | .flag holds => some holds
  | _ => none

/-- The list that a value stands for. -/
def toList? {α : Type} (decode : Value → Option α) : Value → Option (List α)
  | .list items => items.mapM decode
  | _ => none

/-- The alternative that a value names. -/
def toKind? {α : Type} (ofName? : String → Option α) : Value → Option α
  | .name name => ofName? name
  | _ => none

/-- The condition that a value stands for. -/
def toCondition? (v : Value) : Option Condition := do
  let fields ← fields? v
  return {
    positive := ← required fields "positive" toBool?
    kind := ← required fields "kind" (toKind? Condition.Kind.ofName?)
    value := ← required fields "value" toString? }

/-- The effect that a value stands for. -/
def toEffect? (v : Value) : Option Effect := do
  let fields ← fields? v
  return {
    kind := ← required fields "kind" (toKind? Effect.Kind.ofName?)
    value := ← required fields "value" toString? }

/-- The segment that a value stands for. -/
def toSegment? (v : Value) : Option Segment := do
  let fields ← fields? v
  return {
    text := ← required fields "text" toString?
    conditions := ← optional fields "conditions" [] (toList? toCondition?) }

/-- The link that a value stands for. -/
def toLink? (v : Value) : Option Draft.Link := do
  let fields ← fields? v
  return {
    text := ← required fields "text" toString?
    target := ← required fields "target" toString?
    conditions := ← optional fields "conditions" [] (toList? toCondition?)
    tags := ← optional fields "tags" [] (toList? toString?) }

/-- The passage that a value stands for. -/
def toPassage? (v : Value) : Option Draft.Passage := do
  let fields ← fields? v
  return {
    title := ← required fields "title" toString?
    header := ← optional fields "header" "" toString?
    tags := ← optional fields "tags" [] (toList? toString?)
    segments := ← optional fields "segments" [] (toList? toSegment?)
    effects := ← optional fields "macros" [] (toList? toEffect?)
    links := ← optional fields "links" [] (toList? toLink?) }

/-- The draft that a value stands for. -/
def toDraft? (v : Value) : Option Draft := do
  let fields ← fields? v
  return {
    title := ← required fields "title" toString?
    passages := ← required fields "passages" (toList? toPassage?) }

/-! ### Text -/

/-- A draft as text. -/
def writeDraft (style : Style) (d : Draft) : String :=
  String.ofList (render style 0 (ofDraft d))

/-- The draft that a text stands for. -/
def readDraft (s : String) : Option Draft := do
  toDraft? (← read draftShape s)

end Ron

end Skein
