import Skein.Ron.Skip

/-!
# RON values

How a value is to be read depends on what is expected of it: `None` is an absent value where an
optional one is expected, and a name where one of several alternatives is. So a reader is given the
shape of what it is to read, and gives a value of that shape. Fields that the shape of a record does
not know are passed over; those it knows may come in any order and may be left out, but not come
twice.

## Main definitions

* `Ron.Shape` — what is expected of a value
* `Ron.Value` — a value
* `Ron.readValue` — the value of a shape at the beginning of a text
-/

namespace Skein

namespace Ron

/-- What is expected of a value. -/
inductive Shape where
  /-- A quoted text. -/
  | text
  /-- One of the words `true` and `false`. -/
  | flag
  /-- The name of one of several alternatives. -/
  | name
  /-- A value that may be absent. -/
  | optional (shape : Shape)
  /-- A list of values of one shape. -/
  | list (item : Shape)
  /-- A record that may bear the given name, with the shapes of its fields. -/
  | record (name : String) (fields : List (String × Shape))

/-- A value. -/
inductive Value where
  /-- A text, by its content. -/
  | text (content : String)
  /-- A truth value. -/
  | flag (holds : Bool)
  /-- The name of an alternative. -/
  | name (name : String)
  /-- An optional value that is absent. -/
  | absent
  /-- An optional value that is present. -/
  | present (value : Value)
  /-- A list. -/
  | list (items : List Value)
  /-- The fields of a record, in order. -/
  | record (fields : List (String × Value))

/-- The words for truth values. -/
def flagWord : Bool → List Char
  | true => ['t', 'r', 'u', 'e']
  | false => ['f', 'a', 'l', 's', 'e']

/-- The word for an optional value that is absent. -/
def noneWord : List Char :=
  ['N', 'o', 'n', 'e']

/-- The word for a truth value at the beginning of a text. -/
def readFlag (s : List Char) : Option (Bool × List Char) :=
  (expect (flagWord true) s).map (true, ·) <|> (expect (flagWord false) s).map (false, ·)

/-- What follows the opening parenthesis of a record and the name before it; if there is a name, it
has to be the given one. -/
def openRecord (name : String) (s : List Char) : Option (List Char) := do
  let s ←
    if s.head?.any isNameChar then
      let (given, rest) ← readName s
      if String.ofList given = name then skipLayout rest else none
    else skipLayout s
  expect ['('] s

/-- A field whose name is already read. The value of a field that nobody knows is passed over. -/
def readField (shapes : List (String × Shape))
    (value : Shape → List Char → Option (Value × List Char))
    (skip : List Char → Option (List Char)) (name s : List Char) :
    Option (Option (String × Value) × List Char) :=
  match shapes.lookup (String.ofList name) with
  | some shape => (value shape s).map fun (v, rest) => (some (String.ofList name, v), rest)
  | none => (skip s).map (none, ·)

mutual

/-- **The value of a shape** at the beginning of a text, and what follows it. The number of levels
is how deep the value may go: it takes a level itself, and one more if it has brackets. -/
def readValue (context : Context) : Nat → Shape → List Char → Option (Value × List Char)
  | 0, _, _ => none
  | _ + 1, .text, s =>
    (readQuoted s).map fun (content, rest) => (.text (String.ofList content), rest)
  | _ + 1, .flag, s => (readFlag s).map fun (holds, rest) => (.flag holds, rest)
  | _ + 1, .name, s => (readName s).map fun (name, rest) => (.name (String.ofList name), rest)
  | n + 1, .optional shape, s =>
    match expect noneWord s, expect someWord s with
    | some rest, _ => some (.absent, rest)
    | none, some rest =>
      (readPresent context (readValue context n shape) rest).map fun (v, rest) => (.present v, rest)
    | none, none =>
      if context.implicitSome then
        (readValue context n shape s).map fun (v, rest) => (.present v, rest)
      else none
  | n + 1, .list item, s => do readList context item n (← expect ['['] s)
  | n + 1, .record name fields, s => do readFields context fields n (← openRecord name s)

/-- The list whose bracket was just opened. -/
def readList (context : Context) (item : Shape) : Nat → List Char → Option (Value × List Char)
  | 0, _ => none
  | n + 1, s =>
    (readItems ']' (readValue context n item) context.itemLimit s).map fun (items, rest) =>
      (.list items, rest)

/-- The record whose parenthesis was just opened. -/
def readFields (context : Context) (fields : List (String × Shape)) :
    Nat → List Char → Option (Value × List Char)
  | 0, _ => none
  | n + 1, s => do
    let field := readField fields (readValue context n) (skipValue context n)
    let (given, rest) ← readItems ')' (readEntry readName field) context.itemLimit s
    let known := given.filterMap id
    if (known.map Prod.fst).Nodup then return (.record known, rest) else none

end

end Ron

end Skein
