import Skein.Story

/-!
# Linking a draft into a story

All passages are known before any link is resolved, so links may point forward. A draft is refused
if a title occurs twice, and otherwise if a link names a passage that does not exist; a repeated
title is reported before any unknown target.

## Main definitions

* `LinkingError` — the causes for which a draft is refused
* `Story.ofDraft` — the story of a draft

## Main results

* `repeatedTitle?_eq_none_iff` — no repeated title is found exactly when titles are distinct
-/

namespace Skein

/-- The causes for which a draft is refused. -/
inductive LinkingError where
  /-- A link of a passage leads to a title that no passage has. -/
  | targetNotFound (passage text target : String)
  /-- A passage has the title of an earlier passage. -/
  | duplicatePassage (title : String)
  deriving DecidableEq

/-- The wording of an error. -/
def LinkingError.message : LinkingError → String
  | targetNotFound passage text target =>
    "passage '" ++ passage ++ "': link '" ++ text ++ "' targets unknown passage '" ++ target ++ "'"
  | duplicatePassage title => "duplicate passage title: " ++ title

/-! ### Repeated titles -/

/-- The first of the titles that is among the earlier ones or was `seen` before. -/
def repeatedTitle? (seen : List String) : List String → Option String
  | [] => none
  | title :: rest => if title ∈ seen then some title else repeatedTitle? (title :: seen) rest

/-- No repeated title is found exactly when the titles are distinct and none was seen before. -/
theorem repeatedTitle?_eq_none_iff {seen titles : List String} :
    repeatedTitle? seen titles = none ↔ titles.Nodup ∧ ∀ title ∈ titles, title ∉ seen := by
  induction titles generalizing seen with
  | nil => simp [repeatedTitle?]
  | cons title rest ih =>
    by_cases h : title ∈ seen
    · simp [repeatedTitle?, h]
    · simp only [repeatedTitle?, h, if_false, ih, List.nodup_cons, List.mem_cons, not_or,
        forall_eq_or_imp, not_false_eq_true, true_and]
      constructor
      · rintro ⟨hnodup, hfresh⟩
        exact ⟨⟨fun hmem => (hfresh title hmem).1 rfl, hnodup⟩, fun t ht => (hfresh t ht).2⟩
      · rintro ⟨⟨hnew, hnodup⟩, hfresh⟩
        exact ⟨hnodup, fun t ht => ⟨fun heq => hnew (heq ▸ ht), hfresh t ht⟩⟩

/-! ### Resolving links -/

/-- The passage of a story that a passage of a draft becomes. -/
def Passage.ofDraft (p : Draft.Passage) : Passage :=
  { title := p.title
    header := p.header
    segments := p.segments
    effects := p.effects
    isOneTime := p.tags.contains Tag.once }

/-- A link of the passage `source`, with its target looked up among the passages. -/
def resolveLink (passages : List Passage) (source : Fin passages.length) (link : Draft.Link) :
    Except LinkingError (Link passages.length) :=
  match passages.findFinIdx? (·.title = link.target) with
  | none => .error (.targetNotFound (passages.get source).title link.text link.target)
  | some target =>
    .ok {
      source := source
      target := target
      text := link.text
      conditions := link.conditions
      tags := link.tags }

/-- The links of a draft in script order, each with the place of the passage it is written in. -/
def Draft.placedLinks (d : Draft) : List (Fin d.passages.length × Draft.Link) :=
  (List.finRange d.passages.length).flatMap fun i =>
    (d.passages.get i).links.map fun link => (i, link)

/-- **The story of a draft.** -/
def Story.ofDraft (d : Draft) : Except LinkingError Story :=
  let passages := d.passages.map Passage.ofDraft
  have length_eq : d.passages.length = passages.length := (List.length_map _).symm
  match hrepeated : repeatedTitle? [] (passages.map Passage.title) with
  | some title => .error (.duplicatePassage title)
  | none => do
    let links ← d.placedLinks.mapM fun (i, link) => resolveLink passages (i.cast length_eq) link
    return {
      title := d.title
      passages := passages
      links := links
      titles_nodup := (repeatedTitle?_eq_none_iff.1 hrepeated).1 }

end Skein
