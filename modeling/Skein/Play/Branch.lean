import Skein.Play.Offer
import Skein.Search

/-!
# Explored branches

Behind every link lies a branch: the links that can be reached from its target through links that
are offered now. Links back and links that return to the passage from which the branch is seen do
not belong to it. A branch is explored when its link was taken, is no exit, and every link of the
branch was taken or is an exit.

## Main definitions

* `Play.continuations` — the links of the branch that directly follow a link
* `Play.descendants` — all links of the branch behind a link, each once
* `Play.isExplored` — whether the branch behind a link is explored
* `Play.isBranchComplete` — the same, as seen from the passage that the link belongs to
-/

namespace Skein

namespace Play

variable {s : Story}

/-- The links that directly follow a link in a branch seen from `source`. -/
def continuations (play : Play s) (source : s.PassageId) (l : s.LinkId) :
    Except PlayError (List s.LinkId) := do
  let links ← play.offered (s.link l).target
  return links.filter fun child => (s.link child).target ≠ source && !(s.link child).isBack

/-- **All links of the branch behind a link**, in the order in which a depth-first walk meets
them. -/
def descendants (play : Play s) (l : s.LinkId) (source : s.PassageId) :
    Except PlayError (List s.LinkId) := do
  let met ← explore (play.continuations source) [l] s.linkIds
  return met.tail

/-- Whether the branch behind a link, seen from `source`, is explored. -/
def isExplored (play : Play s) (l : s.LinkId) (source : s.PassageId) : Except PlayError Bool :=
  if !play.taken.get l || (s.link l).isExit then .ok false
  else do
    let children ← play.descendants l source
    return children.all fun child => play.taken.get child || (s.link child).isExit

/-- Whether the branch behind a link, seen from the passage the link belongs to, is explored. -/
def isBranchComplete (play : Play s) (l : s.LinkId) : Except PlayError Bool :=
  play.isExplored l (s.link l).source

end Play

end Skein
