import Skein.Proofs.PlainText
import Skein.Proofs.Success
import Skein.Script.Reading

/-!
# Scripts are read block by block

A script is divided at its marks before anything else is done with it, and no block is looked at
while another is read. So a script that is put together from two texts with a mark between them says
what the two texts say, one below the other. One thing has to be watched: the first text may not end
in a colon, because marks are found from the left, and a colon at its end would take away the first
colon of the mark.

What a block says by itself is a draft, too: one passage, or a title, or nothing. With that a script
is a list of computations, one for each block, whose results are put one below the other; which of
them fails first is then a fact about lists of computations.

## Main definitions

* `Draft.append`, `Draft.concat` — drafts one below the other
* `Script.Block.draft`, `Script.Block.reading?` — what a block says by itself

## Main results

* `Text.splitPair_append_pair_append` — splitting a text with a pair put into it
* `Script.assemble_eq` — a script says what its blocks say by themselves
* `Script.assemble_eq_error_iff` — where a script fails
* `Script.read_append_mark` — reading is local to blocks
-/

namespace Skein

/-! ### Texts with a mark between them -/

namespace Text

theorem splitPair_ne_nil (x y : Char) (s : List Char) : splitPair x y s ≠ [] := by
  rw [splitPair_eq]
  split
  · exact List.cons_ne_nil _ _
  · exact List.cons_ne_nil _ _

/-- **A text is split at a pair that stands between two others** into the pieces of the one and the
pieces of the other, unless the first of them ends in the middle of a pair. -/
theorem splitPair_append_pair_append {x y : Char} {s : List Char} (hlast : s.getLast? ≠ some x)
    (t : List Char) : splitPair x y (s ++ x :: y :: t) = splitPair x y s ++ splitPair x y t := by
  fun_induction splitPair x y s with
  | case1 => rw [List.nil_append, splitPair, if_pos ⟨rfl, rfl⟩, List.singleton_append]
  | case2 c =>
    have hc : ¬(c = x ∧ x = y) := fun h => hlast (congrArg some h.1)
    rw [List.singleton_append, splitPair, if_neg hc, splitPair, if_pos ⟨rfl, rfl⟩]
    rfl
  | case3 c d r hpair ih =>
    -- What is left of the first text behind its pair does not end in the middle of a pair either.
    have hr : r.getLast? ≠ some x := by
      intro h
      rw [List.getLast?_cons_cons, List.getLast?_cons, h] at hlast
      exact hlast rfl
    rw [List.cons_append, List.cons_append, splitPair, if_pos hpair, ih hr, List.cons_append]
  | case4 c d r hpair ih =>
    rw [List.getLast?_cons_cons] at hlast
    -- The character belongs to the first piece of what follows, in either text.
    obtain ⟨piece, pieces, hpieces⟩ := List.exists_cons_of_ne_nil (splitPair_ne_nil x y (d :: r))
    rw [List.cons_append, List.cons_append, splitPair, if_neg hpair, ← List.cons_append, ih hlast,
      hpieces]
    rfl

theorem unifyLineEnds_append_cons {c : Char} (hc : c ≠ '\n') (s t : List Char) :
    unifyLineEnds (s ++ c :: t) = unifyLineEnds s ++ unifyLineEnds (c :: t) := by
  fun_induction unifyLineEnds s with
  | case1 => rfl
  | case2 r ih => rw [List.cons_append, List.cons_append, unifyLineEnds, ih, List.cons_append]
  | case3 d r hd ih =>
    rw [List.cons_append, unifyLineEnds, ih, List.cons_append]
    intro rest hreturn hrest
    cases r with
    | nil => exact hc (List.cons.inj hrest).1
    | cons e r =>
      obtain ⟨rfl, -⟩ := List.cons.inj hrest
      exact hd r hreturn rfl

/-- Line ends are written differently, but the last character is the same. -/
theorem getLast?_unifyLineEnds (s : List Char) : (unifyLineEnds s).getLast? = s.getLast? := by
  fun_induction unifyLineEnds s with
  | case1 => rfl
  | case2 r ih => rw [List.getLast?_cons_cons, List.getLast?_cons, List.getLast?_cons, ih]
  | case3 d r hd ih => rw [List.getLast?_cons, List.getLast?_cons, ih]

end Text

/-! ### Drafts one below the other -/

namespace Draft

/-- The draft of two scripts one below the other: the passages of both, under the later title. -/
def append (d e : Draft) : Draft :=
  { title := if e.title = "" then d.title else e.title
    passages := d.passages ++ e.passages }

/-- The draft of scripts one below the other. -/
def concat (ds : List Draft) : Draft :=
  ds.foldr append {}

/-- Passages without a title above a draft. -/
theorem untitled_append (ps : List Draft.Passage) (d : Draft) :
    append { passages := ps } d = { d with passages := ps ++ d.passages } := by
  by_cases h : d.title = ""
  · simp [append, h]
  · simp [append, h]

/-- A title without passages above a draft. -/
theorem bare_append (title : String) (d : Draft) :
    append { title := title } d = if d.title = "" then { d with title := title } else d := by
  by_cases h : d.title = ""
  · simp [append, h]
  · simp [append, h]

theorem append_assoc (d e f : Draft) : (d.append e).append f = d.append (e.append f) := by
  by_cases h : f.title = ""
  · simp [append, h]
  · simp [append, h]

theorem concat_append (ds es : List Draft) :
    concat (ds ++ es) = (concat ds).append (concat es) := by
  induction ds with
  | nil => exact (untitled_append [] _).symm
  | cons d ds ih =>
    have hcons : ∀ rest, concat (d :: rest) = d.append (concat rest) := fun rest => rfl
    rw [List.cons_append, hcons, hcons, ih, append_assoc]

theorem passages_concat (ds : List Draft) : (concat ds).passages = ds.flatMap passages := by
  induction ds with
  | nil => rfl
  | cons d ds ih =>
    rw [List.flatMap_cons, ← ih]
    rfl

end Draft

namespace Script

open Text

/-! ### Blocks -/

/-- **The blocks of a text with a mark in it** are those before the mark and those behind it. -/
theorem blocks_append_mark {s : List Char} (hlast : s.getLast? ≠ some ':') (t : List Char) :
    blocks (s ++ ':' :: ':' :: t) = blocks s ++ blocks t := by
  rw [blocks, splitPair_append_pair_append hlast, List.map_append, List.filter_append,
    List.map_append]
  rfl

theorem unifyLineEnds_append_mark (s t : List Char) :
    unifyLineEnds (s ++ ':' :: ':' :: t) = unifyLineEnds s ++ ':' :: ':' :: unifyLineEnds t := by
  rw [unifyLineEnds_append_cons (by decide)]
  rfl

/-- What a block says by itself. -/
def Block.draft : Block → Except Error Draft
  | storyTitle title => .ok { title := title.getD "" }
  | storyData => .ok {}
  | passage header body => (readPassage header body).map fun p => { passages := [p] }

/-- What a block says by itself if it is a passage. -/
def Block.reading? : Block → Option (Except Error Draft.Passage)
  | passage header body => some (readPassage header body)
  | storyTitle _ | storyData => none

theorem assemble_cons (block : Block) (below : List Block) :
    assemble (block :: below) = do return (← block.draft).append (← assemble below) := by
  cases block with
  | storyTitle title =>
    rw [assemble]
    cases assemble below with
    | error e => rfl
    | ok d => exact congrArg Except.ok (Draft.bare_append _ d).symm
  | storyData =>
    rw [assemble]
    cases assemble below with
    | error e => rfl
    | ok d => exact congrArg Except.ok (Draft.untitled_append [] d).symm
  | passage header body =>
    rw [assemble, Block.draft]
    cases readPassage header body with
    | error e => rfl
    | ok p =>
      cases assemble below with
      | error e => rfl
      | ok d => exact congrArg Except.ok (Draft.untitled_append [p] d).symm

/-- **A script says what its blocks say by themselves**, one below the other. -/
theorem assemble_eq (bs : List Block) :
    assemble bs = (bs.mapM Block.draft).map Draft.concat := by
  induction bs with
  | nil => rfl
  | cons block bs ih =>
    rw [assemble_cons, ih, List.mapM_cons]
    cases block.draft with
    | error e => rfl
    | ok d =>
      cases bs.mapM Block.draft with
      | error e => rfl
      | ok ds => rfl

theorem assemble_append (above below : List Block) :
    assemble (above ++ below) = do return (← assemble above).append (← assemble below) := by
  rw [assemble_eq, assemble_eq, assemble_eq, List.mapM_append]
  cases above.mapM Block.draft with
  | error e => rfl
  | ok ds =>
    cases below.mapM Block.draft with
    | error e => rfl
    | ok es => exact congrArg Except.ok (Draft.concat_append ds es)

/-- What the passages of a draft are read from: each of them from a block of its own. -/
theorem filterMap_reading?_of_assemble {bs : List Block} {d : Draft} (h : assemble bs = .ok d) :
    bs.filterMap Block.reading? = d.passages.map .ok := by
  rw [assemble_eq] at h
  obtain ⟨ds, hds, rfl⟩ := map_eq_ok.1 h
  have hblock : ∀ block d, Block.draft block = .ok d →
      d.passages.map Except.ok = block.reading?.toList := by
    intro block d hd
    cases block with
    | storyTitle title =>
      obtain rfl := Except.ok.inj hd
      rfl
    | storyData =>
      obtain rfl := Except.ok.inj hd
      rfl
    | passage header body =>
      obtain ⟨p, hp, rfl⟩ := map_eq_ok.1 hd
      exact congrArg (fun reading => [reading]) hp.symm
  rw [Draft.passages_concat, List.map_flatMap, List.flatMap_def,
    map_eq_map_of_mapM_eq_ok hds hblock, ← List.flatMap_def, List.filterMap_eq_flatMap_toList]

theorem draft_eq_error_iff {block : Block} {e : Error} :
    block.draft = .error e ↔
      ∃ header body, block = .passage header body ∧ readPassage header body = .error e := by
  cases block with
  | storyTitle title => exact iff_of_false (fun h => by cases h) (by simp)
  | storyData => exact iff_of_false (fun h => by cases h) (by simp)
  | passage header body =>
    rw [Block.draft, map_eq_error]
    constructor
    · exact fun h => ⟨header, body, rfl, h⟩
    · rintro ⟨_, _, heq, h⟩
      obtain ⟨rfl, rfl⟩ := Block.passage.inj heq
      exact h

/-- The report of a fault names the passage that it was found in. -/
theorem passage_of_readPassage_eq_error {header : Header} {body : List (List Char)} {e : Error}
    (h : readPassage header body = .error e) : e.passage = header.title := by
  rw [readPassage] at h
  obtain ⟨fault, -, rfl⟩ := mapError_eq_error.1 h
  rfl

/-- **A script fails at the first of its passages that cannot be read.** -/
theorem assemble_eq_error_iff {bs : List Block} {e : Error} :
    assemble bs = .error e ↔
      ∃ above header body below, bs = above ++ .passage header body :: below ∧
        (∀ header body, .passage header body ∈ above → ∃ p, readPassage header body = .ok p) ∧
        readPassage header body = .error e := by
  rw [assemble_eq, map_eq_error, mapM_eq_error_iff]
  constructor
  · rintro ⟨above, block, below, rfl, hread, hdraft⟩
    obtain ⟨header, body, rfl, herror⟩ := draft_eq_error_iff.1 hdraft
    refine ⟨above, header, body, below, rfl, fun h b hmem => ?_, herror⟩
    obtain ⟨d, hd⟩ := hread _ hmem
    obtain ⟨p, hp, -⟩ := map_eq_ok.1 hd
    exact ⟨p, hp⟩
  · rintro ⟨above, header, body, below, rfl, hread, herror⟩
    refine ⟨above, _, below, rfl, fun block hmem => ?_, draft_eq_error_iff.2 ⟨_, _, rfl, herror⟩⟩
    cases block with
    | storyTitle title => exact ⟨_, rfl⟩
    | storyData => exact ⟨_, rfl⟩
    | passage h b =>
      obtain ⟨p, hp⟩ := hread h b hmem
      exact ⟨_, map_eq_ok.2 ⟨p, hp, rfl⟩⟩

/-- **Reading is local to blocks.** Put a mark between two texts of which the first does not end in
a colon. Of the whole exactly that can be read which can be read of both: the first fault of the
upper text is reported, or else the first of the lower one, and without a fault there are the
passages of both, under the lower title if there is one. So the passages of any script are read each
from its own block, and a script that cannot be read fails at the first passage that cannot, with a
report that names it. -/
theorem read_append_mark {upper : String} (hlast : upper.toList.getLast? ≠ some ':')
    (lower : String) :
    (read (upper ++ "::" ++ lower) = do
      let d ← read upper
      let e ← read lower
      return {
        title := if e.title = "" then d.title else e.title
        passages := d.passages ++ e.passages }) ∧
    (∀ script d, read script = .ok d →
      (blocks (unifyLineEnds script.toList)).filterMap Block.reading? = d.passages.map .ok) ∧
    ∀ script e, read script = .error e ↔
      ∃ above header body below,
        blocks (unifyLineEnds script.toList) = above ++ .passage header body :: below ∧
        (∀ header body, .passage header body ∈ above → ∃ p, readPassage header body = .ok p) ∧
        readPassage header body = .error e ∧ e.passage = header.title := by
  refine ⟨?_, fun script d => filterMap_reading?_of_assemble, fun script e => ?_⟩
  · have htext : (upper ++ "::" ++ lower).toList =
        upper.toList ++ ':' :: ':' :: lower.toList := by simp
    have hend : (unifyLineEnds upper.toList).getLast? ≠ some ':' := by
      rwa [getLast?_unifyLineEnds]
    rw [read, htext, unifyLineEnds_append_mark, blocks_append_mark hend, assemble_append]
    rfl
  · rw [read, assemble_eq_error_iff]
    constructor
    · rintro ⟨above, header, body, below, heq, hread, herror⟩
      exact ⟨above, header, body, below, heq, hread, herror,
        passage_of_readPassage_eq_error herror⟩
    · rintro ⟨above, header, body, below, heq, hread, herror, -⟩
      exact ⟨above, header, body, below, heq, hread, herror⟩

/-- A title and a quay, with carriage returns in the line ends. -/
def quay : String :=
  ":: StoryTitle\r\nThe Harbour\r\n:: Quay [start]\r\n[[Loft]]\r\n"

/-- A loft, and another title that is blank. -/
def loft : String :=
  " Loft\nDust: no more.\n::StoryTitle\n  \n"

/-- Two passages with faults; the title of the first of them begins with a colon. -/
def cellar : String :=
  ": Cellar\n[else]\nDark.\n:: Attic\nlamp: 3\n--\n"

/-- Below the quay, the loft has no influence on the title, and of the two faults below it the first
is reported, under the title that the colon belongs to. -/
theorem read_append_mark_quay :
    quay.toList.getLast? ≠ some ':' ∧
    read (quay ++ "::" ++ loft) = .ok {
      title := "The Harbour"
      passages := [
        { title := "Quay", tags := ["start"], links := [{ text := "Loft", target := "Loft" }] },
        { title := "Loft", segments := [{ text := "Dust: no more.\n" }] }] } ∧
    read (quay ++ "::" ++ cellar) = .error ⟨": Cellar", .elseWithoutIf⟩ ∧
    ∃ above header body below,
      blocks (unifyLineEnds (quay ++ "::" ++ cellar).toList) =
        above ++ .passage header body :: below ∧
      (∀ header body, .passage header body ∈ above → ∃ p, readPassage header body = .ok p) ∧
      readPassage header body = .error ⟨": Cellar", .elseWithoutIf⟩ ∧
      ": Cellar" = header.title := by
  have hlast : quay.toList.getLast? ≠ some ':' := by decide
  have hquay : read quay = .ok {
      title := "The Harbour"
      passages := [{
        title := "Quay", tags := ["start"], links := [{ text := "Loft", target := "Loft" }] }] } :=
    toOption_eq_some.1 (by decide +kernel)
  have hloft : read loft = .ok {
      passages := [{ title := "Loft", segments := [{ text := "Dust: no more.\n" }] }] } :=
    toOption_eq_some.1 (by decide +kernel)
  have hcellar : read cellar = .error ⟨": Cellar", .elseWithoutIf⟩ := by decide +kernel
  obtain ⟨hread, -, -⟩ := read_append_mark hlast loft
  obtain ⟨hfails, -, hfirst⟩ := read_append_mark hlast cellar
  rw [hquay, hloft] at hread
  rw [hquay, hcellar] at hfails
  exact ⟨hlast, hread, hfails, (hfirst _ _).1 hfails⟩

end Script

end Skein
