import Skein.Draft

/-!
# Stories

A story is a graph of passages whose links know where they lead. Passages and links are numbered in
script order and referred to by their numbers; a number comes with a proof that it is one of this
story, so no lookup can fail. What happens while a story is read is kept apart from it
(`Skein.Play`), so a story never changes.

## Main definitions

* `Story` — a title, passages with distinct titles, and links between them
* `Story.PassageId`, `Story.LinkId` — the handles of a story
* `Story.linksFrom` — the links of a passage, in order
* `Story.passageId?` — the passage with a given title

## Main results

* `Story.mem_linksFrom` — a link is listed under its source and under no other passage
-/

namespace Skein

/-- A passage of a story. -/
structure Passage where
  /-- The title, by which links and hosts name the passage. -/
  title : String
  /-- The heading shown instead of the title; empty if there is none. -/
  header : String
  /-- The text, in stretches that share their conditions. -/
  segments : List Segment
  /-- What happens to the player on a visit, in order. -/
  effects : List Effect
  /-- Whether links to the passage disappear after the first visit. -/
  isOneTime : Bool
  deriving DecidableEq

/-- The heading of a passage: its header if it has one, otherwise its title. -/
def Passage.displayTitle (p : Passage) : String :=
  if p.header = "" then p.title else p.header

/-- A link between two of `n` passages. -/
structure Link (n : Nat) where
  /-- The passage that the link belongs to. -/
  source : Fin n
  /-- The passage that the link leads to. -/
  target : Fin n
  /-- What the reader sees. -/
  text : String
  /-- What has to hold for the link to be offered. -/
  conditions : List Condition
  /-- The tags of the link, in order. -/
  tags : List String
  deriving DecidableEq

namespace Link

variable {n : Nat}

/-- Whether the link bears the tag. -/
def hasTag (l : Link n) (tag : String) : Bool :=
  l.tags.contains tag

/-- Whether the link leaves the current branch. -/
def isExit (l : Link n) : Bool :=
  l.hasTag Tag.exit

/-- Whether the link returns to an earlier passage. -/
def isBack (l : Link n) : Bool :=
  l.hasTag Tag.back

end Link

/-- **A story**: passages with distinct titles and the links between them, both in script order. -/
structure Story where
  /-- The title; empty if there is none. -/
  title : String
  /-- The passages. -/
  passages : List Passage
  /-- The links. -/
  links : List (Link passages.length)
  /-- No two passages have the same title. -/
  titles_nodup : (passages.map Passage.title).Nodup

namespace Story

/-- A passage of the story, by its place in script order. -/
abbrev PassageId (s : Story) : Type :=
  Fin s.passages.length

/-- A link of the story, by its place in script order. -/
abbrev LinkId (s : Story) : Type :=
  Fin s.links.length

variable (s : Story)

/-- The passage with the given handle. -/
def passage (p : s.PassageId) : Passage :=
  s.passages.get p

/-- The link with the given handle. -/
def link (l : s.LinkId) : Link s.passages.length :=
  s.links.get l

/-- The handles of all passages, in script order. -/
def passageIds : List s.PassageId :=
  List.finRange s.passages.length

/-- The handles of all links, in script order. -/
def linkIds : List s.LinkId :=
  List.finRange s.links.length

/-- The links of a passage, in script order and whether they are offered or not. -/
def linksFrom (p : s.PassageId) : List s.LinkId :=
  s.linkIds.filter fun l => (s.link l).source = p

/-- The passage with the given title. -/
def passageId? (title : String) : Option s.PassageId :=
  s.passages.findFinIdx? (·.title = title)

variable {s}

/-- A link is listed under its source and under no other passage. -/
@[simp] theorem mem_linksFrom {p : s.PassageId} {l : s.LinkId} :
    l ∈ s.linksFrom p ↔ (s.link l).source = p := by
  simp [linksFrom, linkIds]

@[simp] theorem mem_passageIds (p : s.PassageId) : p ∈ s.passageIds :=
  List.mem_finRange p

@[simp] theorem mem_linkIds (l : s.LinkId) : l ∈ s.linkIds :=
  List.mem_finRange l

end Story

end Skein
