import Skein.Play
import Skein.Text.Escape

/-!
# Inspecting a playthrough

A playthrough on one line, for those who debug a host: the title, the size of the graph, the start,
and everything about the player.

## Main definitions

* `Play.inspect` — a playthrough on one line
-/

namespace Skein

/-- A text between quotation marks, with everything spelled out that does not show. -/
def inspectText (s : String) : String :=
  String.ofList (Text.quoted false s.toList)

/-- Texts in brackets, separated by commas. -/
def inspectTexts (l : List String) : String :=
  "[" ++ ", ".intercalate (l.map inspectText) ++ "]"

/-- A named group of fields. -/
def inspectGroup (name : String) (fields : List (String × String)) : String :=
  name ++ " \x7b " ++
    ", ".intercalate (fields.map fun (field, value) => field ++ ": " ++ value) ++ " \x7d"

/-- An item on one line. -/
def Item.inspect (item : Item) : String :=
  inspectGroup "Item" [("name", inspectText item.name), ("count", toString item.count)]

/-- What the player owns and knows, on one line. -/
def Player.inspect (p : Player) : String :=
  inspectGroup "RuntimeState" [
    ("money", toString p.money),
    ("items", "[" ++ ", ".intercalate (p.items.map Item.inspect) ++ "]"),
    ("facts", "\x7b" ++ ", ".intercalate (p.facts.map inspectText) ++ "\x7d")]

/-- **A playthrough on one line.** -/
def Play.inspect {s : Story} (play : Play s) : String :=
  let start :=
    match play.start with
    | none => "None"
    | some p => "Some(PassageId(" ++ toString p.val ++ "))"
  inspectGroup "Story" [
    ("title", inspectText s.title),
    ("passages", toString s.passages.length),
    ("links", toString s.links.length),
    ("start", start),
    ("state", play.player.inspect),
    ("listeners", toString play.listeners)]

end Skein
