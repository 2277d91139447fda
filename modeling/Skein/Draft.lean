import Skein.Condition
import Skein.Effect

/-!
# Drafts

A draft is a story as its author wrote it: passages in order, each with its text, its effects and
its links, where a link still names its target by title. Whether the titles fit together is a
question for later (`Skein.Story.Linking`).

## Main definitions

* `Draft` — a title and passages
* `Draft.Passage`, `Draft.Link` — what one block of a script becomes
* `Segment` — a stretch of text with the conditions under which it is shown
* `Tag.once`, `Tag.exit`, `Tag.back` — the tags with a meaning
-/

namespace Skein

/-! ### Tags

Authors tag passages and links freely; three words have a meaning. -/

/-- Marks a passage that is no longer offered once it was visited. -/
def Tag.once : String := "once"

/-- Marks a link that leaves the current branch. -/
def Tag.exit : String := "exit"

/-- Marks a link that returns to an earlier passage. -/
def Tag.back : String := "back"

/-! ### Parts of a draft -/

/-- A stretch of text with the conditions under which it is shown. -/
structure Segment where
  /-- The text, with its line ends. -/
  text : String
  /-- What has to hold for the text to be shown. -/
  conditions : List Condition := []
  deriving DecidableEq

namespace Draft

/-- A link whose target is named by its title. -/
structure Link where
  /-- What the reader sees. -/
  text : String
  /-- The title of the passage that the link leads to. -/
  target : String
  /-- What has to hold for the link to be offered. -/
  conditions : List Condition := []
  /-- The tags of the link, in order. -/
  tags : List String := []
  deriving DecidableEq

/-- A passage as written. -/
structure Passage where
  /-- The title, by which links name the passage. -/
  title : String
  /-- The heading shown instead of the title; empty if there is none. -/
  header : String := ""
  /-- The tags of the passage, in order. -/
  tags : List String := []
  /-- The text, in stretches that share their conditions. -/
  segments : List Segment := []
  /-- What happens to the player on a visit, in order. -/
  effects : List Effect := []
  /-- The links, in order. -/
  links : List Link := []
  deriving DecidableEq

end Draft

/-- **A story as written**, before its links are resolved. -/
structure Draft where
  /-- The title of the story; empty if there is none. -/
  title : String := ""
  /-- The passages, in order. -/
  passages : List Draft.Passage := []
  deriving DecidableEq

end Skein
