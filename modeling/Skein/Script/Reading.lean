import Skein.Script.Block
import Skein.Script.Content
import Skein.Script.Markup
import Skein.Script.Preamble

/-!
# Reading a script

A whole script becomes a draft: the passages in order, under the title of the last block that gives
one. The first passage with a fault makes the script unreadable.

## Main definitions

* `Script.readPassage` — the passage that a header and a body describe
* `Script.assemble` — the draft that blocks describe
* `Script.read` — the draft that a script describes
-/

namespace Skein

namespace Script

open Text

/-- The segments and the links of the given lines of content. -/
def readContent (content : List (List Char)) :
    Except Fault (List Segment × List Draft.Link) := do
  let extracted := (← segments content).map extractLinks
  return (extracted.filterMap Prod.fst, extracted.flatMap Prod.snd)

/-- The passage that a header and a body describe. -/
def readPassage (header : Header) (body : List (List Char)) : Except Error Draft.Passage :=
  let (preambleLines, contentLines) := splitBody body
  let passage : Except Fault Draft.Passage := do
    let preamble ← Preamble.read preambleLines
    let (segments, links) ← readContent contentLines
    return {
      title := header.title
      header := preamble.heading.getD ""
      tags := header.tags
      segments := segments
      effects := preamble.effects
      links := links }
  passage.mapError (⟨header.title, ·⟩)

/-- The draft that blocks describe: of several titles the last one counts, and of several faults the
first one is reported. -/
def assemble : List Block → Except Error Draft
  | [] => .ok { title := "", passages := [] }
  | .storyData :: rest => assemble rest
  | .storyTitle title :: rest => do
    let draft ← assemble rest
    return if draft.title = "" then { draft with title := title.getD "" } else draft
  | .passage header body :: rest => do
    let passage ← readPassage header body
    let draft ← assemble rest
    return { draft with passages := passage :: draft.passages }

/-- **The draft that a script describes.** -/
def read (script : String) : Except Error Draft :=
  assemble (blocks (unifyLineEnds script.toList))

end Script

end Skein
