import Skein.Draft

/-!
# Writing scripts

A draft is written as a script in one fixed way: the title in a block of its own, then every passage
with its header, its preamble, its text and its links. Whatever has conditions stands between a
directive and the line that ends the guard, so what is guarded by different conditions never
touches.

## Main definitions

* `Script.spellClause`, `Script.spellDirective` — conditions as written in a directive
* `Script.spellPassage` — a passage as a block
* `Script.spell` — a draft as a script
-/

namespace Skein

namespace Script

/-- A text as a line. -/
def spellLine (text : List Char) : List Char :=
  text ++ ['\n']

/-- Words with one space between neighbours. -/
def spellWords (words : List String) : List Char :=
  [' '].intercalate (words.map String.toList)

/-- A condition as a clause of a directive that begins with `if`. -/
def spellClause (c : Condition) : List Char :=
  (if c.positive then [] else ['!']) ++ c.kind.keyword.toList ++ ' ' :: c.value.toList

/-- Conditions as a directive. -/
def spellDirective (conditions : List Condition) : List Char :=
  "[if ".toList ++ " && ".toList.intercalate (conditions.map spellClause) ++ [']']

/-- Lines under the guard of conditions, if there are any. -/
def spellGuarded (conditions : List Condition) (lines : List Char) : List Char :=
  if conditions = [] then lines
  else spellLine (spellDirective conditions) ++ lines ++ spellLine "[continue]".toList

/-- A segment under the guard of its conditions. -/
def spellSegment (s : Segment) : List Char :=
  spellGuarded s.conditions s.text.toList

/-- A link in markup, on a line under the guard of its conditions. -/
def spellLink (l : Draft.Link) : List Char :=
  spellGuarded l.conditions <| spellLine <|
    "> \x7b".toList ++ spellWords l.tags ++ "\x7d [[".toList ++ l.text.toList ++ "->".toList ++
      l.target.toList ++ "]]".toList

/-- An effect as a line of a preamble. -/
def spellEffect (e : Effect) : List Char :=
  spellLine (e.kind.keyword.toList ++ ": ".toList ++ e.value.toList)

/-- The header line of a passage. -/
def spellHeader (p : Draft.Passage) : List Char :=
  spellLine <| ":: ".toList ++ p.title.toList ++
    if p.tags = [] then [] else " [".toList ++ spellWords p.tags ++ [']']

/-- The heading of a passage as a line of a preamble, if it has one. -/
def spellHeading (p : Draft.Passage) : List Char :=
  if p.header = "" then [] else spellLine ("setTitle: ".toList ++ p.header.toList)

/-- A passage as a block. -/
def spellPassage (p : Draft.Passage) : List Char :=
  spellHeader p ++ p.effects.flatMap spellEffect ++ spellHeading p ++ spellLine "--".toList ++
    p.segments.flatMap spellSegment ++ p.links.flatMap spellLink

/-- The title of a draft as a block, if it has one. -/
def spellTitle (d : Draft) : List Char :=
  if d.title = "" then [] else spellLine ":: StoryTitle".toList ++ spellLine d.title.toList

/-- **A draft as a script.** -/
def spell (d : Draft) : String :=
  String.ofList (spellTitle d ++ d.passages.flatMap spellPassage)

end Script

end Skein
