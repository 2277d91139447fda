import Skein.Condition.Holding
import Skein.Play
import Skein.Select

/-!
# What a passage shows and offers

The text of a passage and the links that can be taken from it depend on the player, and the links
also on which one-time passages were visited. Both are judged anew whenever they are asked for.

## Main definitions

* `Play.content` — the text of a passage that is shown
* `Play.isOffered` — whether a link can be taken
* `Play.offered` — the links of a passage that can be taken
-/

namespace Skein

namespace Play

variable {s : Story}

/-- The text of a passage that is shown: the segments whose conditions hold, in order. -/
def content (play : Play s) (p : s.PassageId) : Except PlayError String := do
  let shown ← select (fun segment : Segment => Condition.allHold segment.conditions play.player)
    (s.passage p).segments
  return String.join (shown.map Segment.text)

/-- Whether a link can be taken: its target is not used up and its conditions hold. The conditions
are not judged if the target is used up. -/
def isOffered (play : Play s) (l : s.LinkId) : Except PlayError Bool :=
  let link := s.link l
  if (s.passage link.target).isOneTime && play.visited.get link.target then .ok false
  else Condition.allHold link.conditions play.player

/-- The links of a passage that can be taken, in order. -/
def offered (play : Play s) (p : s.PassageId) : Except PlayError (List s.LinkId) :=
  select play.isOffered (s.linksFrom p)

end Play

end Skein
