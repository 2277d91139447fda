import Skein.Script.Header
import Skein.Text.Lines

/-!
# Blocks of a script

A script is divided into blocks by `::`, wherever it occurs. The first line of a block says what
it is: the title of the story, data of an editor, or a passage with the given header.

## Main definitions

* `Script.Block` — a block of a script
* `Script.Block.read` — what one block says
* `Script.blocks` — the blocks of a script, in order
-/

namespace Skein

namespace Script

open Text

/-- A block of a script. -/
inductive Block where
  /-- The block with the title of the story: its second line, unless that is blank or missing. -/
  | storyTitle (title : Option String)
  /-- The block with data of an editor, which has no meaning here. -/
  | storyData
  /-- A passage: what its header says, and the lines below the header. -/
  | passage (header : Header) (body : List (List Char))
  deriving DecidableEq

/-- What one block says. -/
def Block.read (block : List Char) : Block :=
  let head := trim ((lines block).headD [])
  let body := (lines block).tail
  if head = "StoryTitle".toList then
    let title := trim (body.headD [])
    storyTitle (if title = [] then none else some (String.ofList title))
  else if head = "StoryData".toList then storyData
  else passage (Header.read head) body

/-- The blocks of a script, in order. Blanks around a block do not belong to it, and a block of
blanks is none. -/
def blocks (script : List Char) : List Block :=
  (((splitPair ':' ':' script).map trim).filter (· ≠ [])).map Block.read

end Script

end Skein
