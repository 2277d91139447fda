import Skein.Draft
import Skein.Text.Blank
import Skein.Text.Lines
import Skein.Text.Split

/-!
# Link markup

Links stand at the beginning of a line: `> {back} [note] [[Leave the house->Street]]`. The marker
`>`, the tags in braces and the reserved groups in brackets may each be missing, several links may
follow each other, and without an arrow the text of a link is also its target. Links inherit the
conditions of the segment they stand in.

## Main definitions

* `Script.Markup` — the parts of one link in markup
* `Script.matchMarkup` — the link at the beginning of a text, and what follows it
* `Script.frontMarkup` — all links at the beginning of a text, and what follows them
* `Script.extractLinks` — a segment without its links, and the links

## Main results

* `Script.length_lt_of_matchMarkup` — what follows a link is shorter than the text
-/

namespace Skein

namespace Script

open Text

/-- The parts of one link in markup. -/
structure Markup where
  /-- What stands in the braces; empty without braces. -/
  tags : List Char
  /-- What stands in the double brackets. -/
  body : List Char
  deriving DecidableEq

/-- What follows the double bracket that opens a link, after any reserved groups before it. -/
def skipReserved (s : List Char) : Option (List Char) :=
  match s with
  | '[' :: '[' :: body => some body
  | '[' :: group =>
    match _hcut : cutWhere (· == ']') group with
    | none => none
    | some (_, after) => skipReserved (trimStart after)
  | _ => none
termination_by s.length
decreasing_by
  have := length_lt_of_cutWhere _hcut
  have := length_trimStart_le after
  simp only [List.length_cons]
  omega

/-- The tags of a link and what follows them; none if a brace is not closed. -/
def matchTags (s : List Char) : Option (List Char × List Char) :=
  match s with
  | '\x7b' :: group =>
    (cutWhere (· == '\x7d') group).map fun (tags, after) => (tags, trimStart after)
  | _ => some ([], s)

/-- What follows the marker of a link, if there is one, and the blanks around it. -/
def skipMarker (s : List Char) : List Char :=
  match trimStart s with
  | '>' :: rest => trimStart rest
  | rest => rest

/-- The link at the beginning of a text, and what follows it. -/
def matchMarkup (s : List Char) : Option (Markup × List Char) := do
  let (tags, rest) ← matchTags (skipMarker s)
  let inner ← skipReserved rest
  let (body, after) ← cutPair ']' ']' inner
  return (⟨tags, body⟩, after)

/-! ### Bounds

What follows a link is shorter than the text it was found in, so links can be taken off the
beginning of a line until there are none. -/

private theorem length_skipMarker_le (s : List Char) : (skipMarker s).length ≤ s.length := by
  have hs := length_trimStart_le s
  unfold skipMarker
  split
  · next rest heq =>
    have hr := length_trimStart_le rest
    rw [heq, List.length_cons] at hs
    omega
  · next rest heq => exact hs

private theorem length_le_of_matchTags {s tags rest : List Char}
    (h : matchTags s = some (tags, rest)) : rest.length ≤ s.length := by
  unfold matchTags at h
  split at h
  · obtain ⟨⟨t, after⟩, hcut, heq⟩ := Option.map_eq_some_iff.1 h
    obtain ⟨rfl, rfl⟩ := Prod.mk.inj heq
    have := length_lt_of_cutWhere hcut
    have := length_trimStart_le after
    simp only [List.length_cons]
    omega
  · obtain ⟨-, rfl⟩ := Prod.mk.inj (Option.some.inj h)
    exact Nat.le_refl _

private theorem length_le_of_skipReserved {s body : List Char}
    (h : skipReserved s = some body) : body.length ≤ s.length := by
  fun_induction skipReserved s with
  | case1 =>
    obtain rfl := Option.some.inj h
    simp only [List.length_cons]
    omega
  | case2 => simp at h
  | case3 group _ _ after hcut ih =>
    have := ih h
    have := length_lt_of_cutWhere hcut
    have := length_trimStart_le after
    simp only [List.length_cons]
    omega
  | case4 => simp at h

theorem length_lt_of_matchMarkup {s after : List Char} {markup : Markup}
    (h : matchMarkup s = some (markup, after)) : after.length < s.length := by
  simp only [matchMarkup, bind, pure, Option.bind_eq_some_iff] at h
  obtain ⟨⟨tags, rest⟩, htags, inner, hinner, ⟨body, after'⟩, hbody, heq⟩ := h
  obtain ⟨-, rfl⟩ := Prod.mk.inj (Option.some.inj heq)
  have := length_skipMarker_le s
  have := length_le_of_matchTags htags
  have := length_le_of_skipReserved hinner
  have := length_lt_of_cutPair hbody
  simp only at *
  omega

/-! ### Links of a segment -/

/-- All links at the beginning of a text, in order, and what follows them. -/
def frontMarkup (s : List Char) : List Markup × List Char :=
  match _hmatch : matchMarkup s with
  | none => ([], s)
  | some (markup, after) =>
    let rest := frontMarkup after
    (markup :: rest.1, rest.2)
termination_by s.length
decreasing_by exact length_lt_of_matchMarkup _hmatch

/-- The link that markup stands for, under the given conditions. -/
def Markup.link (markup : Markup) (conditions : List Condition) : Draft.Link :=
  let (text, target) := (cutPair '-' '>' markup.body).getD (markup.body, markup.body)
  { text := String.ofList (trim text)
    target := String.ofList (trim target)
    conditions := conditions
    tags := (words markup.tags).map String.ofList }

/-- What is left of a line of prose without the links at its beginning; nothing if there were links
and only blanks follow them. -/
def remainder (line : List Char) : Option (List Char) :=
  let front := frontMarkup line
  if front.1 ≠ [] ∧ front.2.all isBlank then none else some front.2

/-- **A segment without its links, and the links.** The remaining text has no blanks around it and
ends with one line feed; a segment without remaining text is none. -/
def extractLinks (segment : Segment) : Option Segment × List Draft.Link :=
  let written := lines segment.text.toList
  let text := trim (joinLines (written.filterMap remainder))
  let links := written.flatMap fun line =>
    (frontMarkup line).1.map fun markup => markup.link segment.conditions
  (if text = [] then none else some { segment with text := String.ofList text ++ "\n" }, links)

end Script

end Skein
