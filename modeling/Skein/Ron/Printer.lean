import Skein.Ron.Value
import Skein.Text.Escape

/-!
# Writing RON

A value is written on one line, or with one item or field a line down to a given depth and on one
line below that. Records are written without their names, quoted text with everything spelled out
that does not show, apostrophes included.

## Main definitions

* `Ron.Style` — how deep lines are broken, and what indents them
* `Ron.Style.compact`, `Ron.Style.pretty` — the two styles in use
* `Ron.render` — a value as text
-/

namespace Skein

namespace Ron

/-- How a value is laid out. -/
structure Style where
  /-- What stands after a colon, and after a comma that does not end a line. -/
  separator : List Char
  /-- What a line is indented by, for each level. -/
  indentation : List Char
  /-- The deepest level whose items and fields stand on lines of their own. -/
  depthLimit : Nat

namespace Style

/-- Everything on one line, without blanks. -/
def compact : Style := ⟨[], [], 0⟩

/-- One item or field a line, indented by two spaces, down to the sixth level. -/
def pretty : Style := ⟨[' '], [' ', ' '], 6⟩

/-- The indentation of a level. -/
def indent (style : Style) (level : Nat) : List Char :=
  (List.replicate level style.indentation).flatten

/-- Items that are already written, between an opening and a closing mark; `level` is the level of
the items. -/
def enclose (style : Style) (level : Nat) (left right : Char) (items : List (List Char)) :
    List Char :=
  if items = [] then [left, right]
  else if level ≤ style.depthLimit then
    left :: '\n' ::
      (items.flatMap fun item => style.indent level ++ item ++ [',', '\n']) ++
      style.indent (level - 1) ++ [right]
  else left :: (',' :: style.separator).intercalate items ++ [right]

end Style

mutual

/-- A value as text, where `level` is the level that the value itself stands on. -/
def render (style : Style) (level : Nat) : Value → List Char
  | .text content => Text.quoted true content.toList
  | .flag holds => flagWord holds
  | .name name => name.toList
  | .absent => noneWord
  | .present value => someWord ++ '(' :: render style level value ++ [')']
  | .list items => style.enclose (level + 1) '[' ']' (renderItems style (level + 1) items)
  | .record fields => style.enclose (level + 1) '(' ')' (renderFields style (level + 1) fields)

/-- The items of a list as texts. -/
def renderItems (style : Style) (level : Nat) : List Value → List (List Char)
  | [] => []
  | item :: rest => render style level item :: renderItems style level rest

/-- The fields of a record as texts. -/
def renderFields (style : Style) (level : Nat) : List (String × Value) → List (List Char)
  | [] => []
  | (name, value) :: rest =>
    (name.toList ++ ':' :: style.separator ++ render style level value) ::
      renderFields style level rest

end

end Ron

end Skein
