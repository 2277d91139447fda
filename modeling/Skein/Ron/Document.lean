import Skein.Ron.Value

/-!
# RON documents

A document is a value and nothing else, after attributes that enable extensions of the notation. Of
the extensions only the one for optional values matters to drafts and manifests, but all of them
may be enabled.

## Main definitions

* `Ron.extensions` — the names of the extensions
* `Ron.readAttributes` — the extensions that a document enables
* `Ron.read` — the value of a shape that a document writes
-/

namespace Skein

namespace Ron

/-- The names of the extensions: for optional values, and two that concern records only. -/
def extensions : List String :=
  ["implicit_some", "unwrap_newtypes", "unwrap_variant_newtypes"]

/-- What follows given marks with layout behind each of them. -/
def expectAll : List (List Char) → List Char → Option (List Char)
  | [], s => some s
  | mark :: marks, s => do expectAll marks (← skipLayout (← expect mark s))

/-- The marks that an attribute begins with. -/
def attributeStart : List (List Char) :=
  [['#'], ['!'], ['['], ['e', 'n', 'a', 'b', 'l', 'e'], ['(']]

/-- The names of the extensions that the attributes at the beginning of a text enable, and what
follows them. The second number bounds how many attributes there may be. -/
def readAttributes (itemLimit : Nat) : Nat → List Char → Option (List String × List Char)
  | 0, _ => none
  | n + 1, s =>
    if s.head? = some '#' then do
      let (names, s) ← readItems ')' readName itemLimit (← expectAll attributeStart s)
      let s ← expectAll [[']']] (← skipLayout s)
      let enabled := names.map String.ofList
      if enabled = [] ∨ !enabled.all extensions.contains then none
      else
        let (others, s) ← readAttributes itemLimit n s
        return (enabled ++ others, s)
    else some ([], s)

/-- How deep a document may go: 128 levels below its own value. -/
def levelLimit : Nat :=
  129

/-- **The value of a shape that a document writes**: attributes, the value, and nothing else. -/
def read (shape : Shape) (s : String) : Option Value := do
  let itemLimit := s.toList.length + 1
  let (enabled, body) ← readAttributes itemLimit itemLimit (← skipLayout s.toList)
  let context : Context := ⟨enabled.contains "implicit_some", itemLimit⟩
  let (v, rest) ← readValue context levelLimit shape body
  if (← skipLayout rest) = [] then return v else none

end Ron

end Skein
