import Skein.Proofs.PlainText
import Skein.Script.Header
import Skein.Script.Spelling

/-!
# Headers and their metadata

A header is read in two passes, brackets before braces. A title without brackets and braces and a
group of tags behind it come back as they are, and what follows them can do no harm to either: the
first bracket group of the line holds the tags, so further groups are only left out.

Without a group of tags the first bracket group is to be found further on, and metadata is no safe
place for one, because its braces mean nothing to the first pass. The tags of such a header are
those of its metadata read as a header of its own (`readHeader_append`). So metadata is discarded
only if the passage has tags, or no words stand in the first bracket group of the metadata; else it
can even make the passage one that is visited once.

## Main definitions

* `Text.brackets`, `Text.IsLabel` — the marks of groups, and tags that can stand in a group
* `Script.IsFirstGroup` — the first group of a text, by what it holds
* `Script.spellTitleLine` — the first line of a passage
* `Script.spellDecorated` — the same line with metadata behind it

## Main results

* `Script.group_induction` — a text has no group, or begins with one
* `Script.stripGroups_spellTitleLine_append` — the first pass over a line with a title
* `Script.readHeader_append` — what a header says if nothing of the title follows its tags
* `Script.readHeader_spellTitleLine` — headers are read back
* `Script.readHeader_spellDecorated_exact` — with metadata they are, unless it holds tags
-/

namespace Skein

open Text

/-- The characters that begin and end groups. -/
def Text.brackets : List Char :=
  ['[', ']', '\x7b', '\x7d']

/-- A tag that can stand in a group. -/
@[mk_iff]
structure Text.IsLabel (tag : List Char) : Prop where
  ne_nil : tag ≠ []
  visible : ∀ c ∈ tag, isBlank c = false
  bare : ∀ c ∈ tag, c ∉ brackets

instance (tag : List Char) : Decidable (IsLabel tag) :=
  haveI : Decidable (∀ c ∈ tag, isBlank c = false) := List.decidableBAll _ _
  haveI : Decidable (∀ c ∈ tag, c ∉ brackets) := List.decidableBAll _ _
  decidable_of_iff _ (isLabel_iff tag).symm

namespace Script

/-! ### Tags -/

theorem words_spellWords {tags : List String} (h : ∀ tag ∈ tags, IsLabel tag.toList) :
    (words (spellWords tags)).map String.ofList = tags := by
  have hwords : words (spellWords tags) = tags.map String.toList := by
    refine words_intercalate fun w hw => ?_
    obtain ⟨tag, htag, rfl⟩ := List.mem_map.1 hw
    exact ⟨(h tag htag).ne_nil, (h tag htag).visible⟩
  rw [hwords, List.map_map]
  exact (List.map_congr_left fun tag _ => String.ofList_toList).trans (List.map_id tags)

/-- A row of tags holds no bracket and no brace. -/
theorem not_mem_brackets_of_mem_spellWords {tags : List String}
    (h : ∀ tag ∈ tags, IsLabel tag.toList) : ∀ c ∈ spellWords tags, c ∉ brackets := by
  refine forall_mem_intercalate (List.all_iff_forall_prop.1 (by decide)) fun w hw => ?_
  obtain ⟨tag, htag, rfl⟩ := List.mem_map.1 hw
  exact (h tag htag).bare

theorem not_mem_of_bare {s : List Char} (h : ∀ c ∈ s, c ∉ brackets) {b : Char}
    (hb : b ∈ brackets) : b ∉ s :=
  fun hmem => h b hmem hb

theorem splitWhere_ne_nil (p : Char → Bool) (s : List Char) : splitWhere p s ≠ [] := by
  induction s with
  | nil => exact List.cons_ne_nil _ _
  | cons c s ih =>
    rw [splitWhere]
    split
    · exact List.cons_ne_nil _ _
    · simpa [List.modifyHead_eq_nil_iff] using ih

/-- Splitting takes the marks from a text, and nothing else. -/
theorem flatten_splitWhere (p : Char → Bool) (s : List Char) :
    (splitWhere p s).flatten = s.filter (!p ·) := by
  induction s with
  | nil => rfl
  | cons c s ih =>
    rw [splitWhere]
    split
    · next hc => rw [List.flatten_cons, ih, List.filter_cons_of_neg (by simp [hc]), List.nil_append]
    · next hc =>
      rw [List.filter_cons_of_pos (by simp [hc]), ← ih]
      obtain ⟨piece, pieces, hpieces⟩ := List.exists_cons_of_ne_nil (splitWhere_ne_nil p s)
      rw [hpieces]
      rfl

/-- A text without words is blank. -/
theorem words_eq_nil_iff {s : List Char} : words s = [] ↔ s.all isBlank = true := by
  have hwords : words s = [] ↔ (splitWhere isBlank s).flatten = [] := by
    simp [words, List.filter_eq_nil_iff]
  rw [hwords, flatten_splitWhere, List.filter_eq_nil_iff, List.all_eq_true]
  simp

/-! ### Groups -/

section Groups

variable {left right : Char} {before inner after s t : List Char}

theorem beq_eq_false_of_not_mem {b : Char} (h : b ∉ s) : ∀ c ∈ s, (c == b) = false :=
  fun _ hc => beq_eq_false_iff_ne.2 fun heq => h (heq ▸ hc)

/-- The loop in one equation, without the proofs that it ends. -/
theorem stripGroups_eq (left right : Char) (s : List Char) :
    stripGroups left right s = match cutWhere (· == left) s with
      | none => (s, [])
      | some (before, after) => match cutWhere (· == right) after with
        | none => (s, [])
        | some (inner, rest) => (before ++ (stripGroups left right rest).1,
            inner :: (stripGroups left right rest).2) := by
  rw [stripGroups]
  split
  · next hleft => rw [hleft]
  · next before after hleft =>
    rw [hleft]
    dsimp only
    split
    · next hright => rw [hright]
    · next inner rest hright => rw [hright]

theorem stripGroups_of_not_mem (h : left ∉ s) : stripGroups left right s = (s, []) := by
  rw [stripGroups_eq, cutWhere_eq_none (beq_eq_false_of_not_mem h)]

/-- A group that is not closed is text. -/
theorem stripGroups_of_open (hbefore : left ∉ before) (hafter : right ∉ after) :
    stripGroups left right (before ++ left :: after) = (before ++ left :: after, []) := by
  rw [stripGroups_eq,
    cutWhere_append_cons (beq_eq_false_of_not_mem hbefore) (beq_self_eq_true left)]
  dsimp only
  rw [cutWhere_eq_none (beq_eq_false_of_not_mem hafter)]

theorem stripGroups_group (hbefore : left ∉ before) (hinner : right ∉ inner) (rest : List Char) :
    stripGroups left right (before ++ left :: (inner ++ right :: rest)) =
      (before ++ (stripGroups left right rest).1, inner :: (stripGroups left right rest).2) := by
  rw [stripGroups_eq,
    cutWhere_append_cons (beq_eq_false_of_not_mem hbefore) (beq_self_eq_true left)]
  dsimp only
  rw [cutWhere_append_cons (beq_eq_false_of_not_mem hinner) (beq_self_eq_true right)]

/-- **A text has no group, or it begins with one** and a text follows. -/
theorem group_induction {motive : List Char → Prop} (left right : Char)
    (plain : ∀ s, left ∉ s → motive s)
    (opened : ∀ before after, left ∉ before → right ∉ after → motive (before ++ left :: after))
    (group : ∀ before inner rest, left ∉ before → right ∉ inner → motive rest →
      motive (before ++ left :: (inner ++ right :: rest))) (s : List Char) : motive s := by
  induction hn : s.length using Nat.strongRecOn generalizing s with
  | ind n ih =>
    by_cases hleft : left ∈ s
    · obtain ⟨before, after, rfl, hbefore⟩ := List.eq_append_cons_of_mem hleft
      by_cases hright : right ∈ after
      · obtain ⟨inner, rest, rfl, hinner⟩ := List.eq_append_cons_of_mem hright
        refine group before inner rest hbefore hinner (ih rest.length ?_ rest rfl)
        rw [← hn]
        simp only [List.length_append, List.length_cons]
        omega
      · exact opened before after hbefore hright
    · exact plain s hleft

/-- Text before all groups stays before what is left. -/
theorem stripGroups_append_left (ht : left ∉ t) (s : List Char) :
    stripGroups left right (t ++ s) =
      (t ++ (stripGroups left right s).1, (stripGroups left right s).2) := by
  have hmem : ∀ before, left ∉ before → left ∉ t ++ before := fun before hbefore =>
    List.not_mem_append ht hbefore
  induction s using group_induction left right with
  | plain s hs => rw [stripGroups_of_not_mem (hmem s hs), stripGroups_of_not_mem hs]
  | opened before after hbefore hafter =>
    rw [← List.append_assoc, stripGroups_of_open (hmem before hbefore) hafter,
      stripGroups_of_open hbefore hafter, List.append_assoc]
  | group before inner rest hbefore hinner _ =>
    rw [← List.append_assoc, stripGroups_group (hmem before hbefore) hinner,
      stripGroups_group hbefore hinner, List.append_assoc]

/-- Text without marks stays behind what is left. -/
theorem stripGroups_append_right (hleft : left ∉ t) (hright : right ∉ t) (s : List Char) :
    stripGroups left right (s ++ t) =
      ((stripGroups left right s).1 ++ t, (stripGroups left right s).2) := by
  induction s using group_induction left right with
  | plain s hs =>
    rw [stripGroups_of_not_mem (List.not_mem_append hs hleft), stripGroups_of_not_mem hs]
  | opened before after hbefore hafter =>
    rw [List.append_assoc, List.cons_append,
      stripGroups_of_open hbefore (List.not_mem_append hafter hright),
      stripGroups_of_open hbefore hafter, List.append_assoc, List.cons_append]
  | group before inner rest hbefore hinner ih =>
    rw [List.append_assoc, List.cons_append, List.append_assoc, List.cons_append,
      stripGroups_group hbefore hinner, ih, stripGroups_group hbefore hinner, List.append_assoc]

/-- Nothing is written anew, and what is left keeps its order. -/
theorem stripGroups_sublist (left right : Char) (s : List Char) :
    (stripGroups left right s).1.Sublist s := by
  induction s using group_induction left right with
  | plain s hs => rw [stripGroups_of_not_mem hs]
  | opened before after hbefore hafter => rw [stripGroups_of_open hbefore hafter]
  | group before inner rest hbefore hinner ih =>
    rw [stripGroups_group hbefore hinner]
    have hinner : rest.Sublist (inner ++ right :: rest) :=
      (List.sublist_cons_self right rest).trans (List.sublist_append_right inner _)
    exact ((ih.trans hinner).cons left).append_left before

theorem mem_of_mem_stripGroups {c : Char} (h : c ∈ (stripGroups left right s).1) : c ∈ s :=
  (stripGroups_sublist left right s).subset h

/-- The first group of a text, by what it holds. -/
def IsFirstGroup (left right : Char) (inner s : List Char) : Prop :=
  ∃ before after, left ∉ before ∧ right ∉ inner ∧ s = before ++ left :: (inner ++ right :: after)

theorem head?_stripGroups_eq_some_iff :
    (stripGroups left right s).2.head? = some inner ↔ IsFirstGroup left right inner s := by
  constructor
  · intro h
    induction s using group_induction left right with
    | plain s hs => simp [stripGroups_of_not_mem hs] at h
    | opened before after hbefore hafter => simp [stripGroups_of_open hbefore hafter] at h
    | group before inner' rest hbefore hinner _ =>
      rw [stripGroups_group hbefore hinner, List.head?_cons] at h
      obtain rfl := Option.some.inj h
      exact ⟨before, rest, hbefore, hinner, rfl⟩
  · rintro ⟨before, after, hbefore, hinner, rfl⟩
    rw [stripGroups_group hbefore hinner, List.head?_cons]

end Groups

/-- The tags of a header are the words of its first bracket group. -/
theorem tags_read_of_isFirstGroup {line inner : List Char} (h : IsFirstGroup '[' ']' inner line) :
    (Header.read line).tags = (words inner).map String.ofList := by
  rw [Header.read]
  dsimp only
  rw [List.headD_eq_head?_getD, head?_stripGroups_eq_some_iff.2 h, Option.getD_some]

/-- A header has no tags if its first bracket group is blank, or there is none. -/
theorem tags_read_eq_nil_iff {line : List Char} :
    (Header.read line).tags = [] ↔
      ∀ inner, IsFirstGroup '[' ']' inner line → inner.all isBlank = true := by
  constructor
  · intro h inner hinner
    rwa [tags_read_of_isFirstGroup hinner, List.map_eq_nil_iff, words_eq_nil_iff] at h
  · intro h
    cases hfirst : (stripGroups '[' ']' line).2.head? with
    | none =>
      rw [Header.read]
      dsimp only
      rw [List.headD_eq_head?_getD, hfirst]
      rfl
    | some inner =>
      have hinner := head?_stripGroups_eq_some_iff.1 hfirst
      rw [tags_read_of_isFirstGroup hinner, words_eq_nil_iff.2 (h inner hinner), List.map_nil]

/-! ### Titles and tags -/

/-- The title and the tags of a passage as its first line. -/
def spellTitleLine (title : String) (tags : List String) : List Char :=
  title.toList ++ if tags = [] then [] else ' ' :: '[' :: spellWords tags ++ [']']

theorem spellTitleLine_ne_nil {title : String} (h : title.toList ≠ []) (tags : List String) :
    spellTitleLine title tags ≠ [] :=
  List.append_ne_nil_of_left_ne_nil h _

/-- A first line is another word than a word that is not its title. -/
theorem spellTitleLine_ne {title word : String} (h : title ≠ word) (hword : '[' ∉ word.toList)
    (tags : List String) : spellTitleLine title tags ≠ word.toList := by
  rw [spellTitleLine]
  split
  · rw [List.append_nil]
    exact fun heq => h (String.toList_inj.1 heq)
  · intro heq
    rw [← heq] at hword
    exact hword (by simp)

variable {title : String} {tags : List String}

/-- **The first pass over a line**: the tags of the title are the first group that is found. -/
theorem stripGroups_spellTitleLine_append (hbare : ∀ c ∈ title.toList, c ∉ brackets)
    (htags : ∀ tag ∈ tags, IsLabel tag.toList) (rest : List Char) :
    stripGroups '[' ']' (spellTitleLine title tags ++ rest) =
      (title.toList ++ (if tags = [] then [] else [' ']) ++ (stripGroups '[' ']' rest).1,
        (if tags = [] then [] else [spellWords tags]) ++ (stripGroups '[' ']' rest).2) := by
  have htitle : '[' ∉ title.toList := not_mem_of_bare hbare (by decide)
  rw [spellTitleLine]
  split
  · rw [List.append_nil, stripGroups_append_left htitle]
    rfl
  · have hline : title.toList ++ (' ' :: '[' :: spellWords tags ++ [']']) ++ rest =
        title.toList ++ [' '] ++ '[' :: (spellWords tags ++ ']' :: rest) := by simp
    have hwords : ']' ∉ spellWords tags :=
      not_mem_of_bare (not_mem_brackets_of_mem_spellWords htags) (by decide)
    rw [hline, stripGroups_group (List.not_mem_append htitle (by decide)) hwords,
      List.singleton_append]

/-- **What a header says** if nothing of the title follows its tags: the tags are those behind the
title, or else those that the rest of the line has by itself. -/
theorem readHeader_append (htitle : trim title.toList = title.toList)
    (hbare : ∀ c ∈ title.toList, c ∉ brackets) (htags : ∀ tag ∈ tags, IsLabel tag.toList)
    {rest : List Char}
    (hrest : (stripGroups '\x7b' '\x7d' (stripGroups '[' ']' rest).1).1.all isBlank = true) :
    Header.read (spellTitleLine title tags ++ rest) =
      ⟨title, if tags = [] then (Header.read rest).tags else tags⟩ := by
  have hcurly : '\x7b' ∉ title.toList ++ (if tags = [] then [] else [' ']) := by
    refine List.not_mem_append (not_mem_of_bare hbare (by decide)) ?_
    split <;> decide
  have hspace : (if tags = [] then [] else [' ']).all isBlank = true := by
    split <;> decide
  rw [Header.read, stripGroups_spellTitleLine_append hbare htags]
  dsimp only
  rw [stripGroups_append_left hcurly]
  dsimp only
  rw [trim_append_blank hrest, trim_append_blank hspace, htitle, String.ofList_toList]
  split
  · rfl
  · rw [List.singleton_append, List.headD_cons, words_spellWords htags]

/-- **Headers are read back.** -/
theorem readHeader_spellTitleLine (htitle : trim title.toList = title.toList)
    (hbare : ∀ c ∈ title.toList, c ∉ brackets) (htags : ∀ tag ∈ tags, IsLabel tag.toList) :
    Header.read (spellTitleLine title tags) = ⟨title, tags⟩ := by
  have hstrip : ∀ left right, stripGroups left right [] = ([], []) := fun _ _ =>
    stripGroups_of_not_mem List.not_mem_nil
  have hrest : (stripGroups '\x7b' '\x7d' (stripGroups '[' ']' []).1).1.all isBlank = true := by
    rw [hstrip, hstrip]
    rfl
  have hnone : (Header.read []).tags = [] := by
    rw [Header.read, hstrip]
    rfl
  rw [← List.append_nil (spellTitleLine title tags), readHeader_append htitle hbare htags hrest,
    hnone]
  split
  · next hnil => rw [hnil]
  · rfl

/-! ### Metadata -/

/-- The title and the tags of a passage as its first line, with metadata behind them. -/
def spellDecorated (title : String) (tags : List String) (metadata : List Char) : List Char :=
  spellTitleLine title tags ++ ' ' :: '\x7b' :: (metadata ++ ['\x7d'])

/-- The first pass over metadata: the braces around it mean nothing to it. -/
theorem stripGroups_metadata (metadata : List Char) :
    stripGroups '[' ']' (' ' :: '\x7b' :: (metadata ++ ['\x7d'])) =
      (' ' :: '\x7b' :: ((stripGroups '[' ']' metadata).1 ++ ['\x7d']),
        (stripGroups '[' ']' metadata).2) := by
  have hleft : '[' ∉ [' ', '\x7b'] := by decide
  have hline : ' ' :: '\x7b' :: (metadata ++ ['\x7d']) =
      [' ', '\x7b'] ++ (metadata ++ ['\x7d']) := rfl
  rw [hline, stripGroups_append_left hleft, stripGroups_append_right (by decide) (by decide)]
  rfl

/-- The second pass takes out what the first one left of the metadata. -/
theorem all_isBlank_metadata {metadata : List Char} (h : '\x7d' ∉ metadata) :
    (stripGroups '\x7b' '\x7d'
      (stripGroups '[' ']' (' ' :: '\x7b' :: (metadata ++ ['\x7d']))).1).1.all isBlank = true := by
  have hinner : '\x7d' ∉ (stripGroups '[' ']' metadata).1 := fun hmem =>
    h (mem_of_mem_stripGroups hmem)
  have hspace : '\x7b' ∉ [' '] := by decide
  rw [stripGroups_metadata, ← List.singleton_append (x := ' '), stripGroups_group hspace hinner,
    stripGroups_of_not_mem List.not_mem_nil]
  rfl

/-- Metadata holds the tags that it has as a header of its own. -/
theorem tags_read_metadata (metadata : List Char) :
    (Header.read (' ' :: '\x7b' :: (metadata ++ ['\x7d']))).tags = (Header.read metadata).tags := by
  rw [Header.read, Header.read, stripGroups_metadata]

/-- What a header with metadata says. -/
theorem readHeader_spellDecorated (htitle : trim title.toList = title.toList)
    (hbare : ∀ c ∈ title.toList, c ∉ brackets) (htags : ∀ tag ∈ tags, IsLabel tag.toList)
    {metadata : List Char} (hmetadata : '\x7d' ∉ metadata) :
    Header.read (spellDecorated title tags metadata) =
      ⟨title, if tags = [] then (Header.read metadata).tags else tags⟩ := by
  rw [spellDecorated, readHeader_append htitle hbare htags (all_isBlank_metadata hmetadata),
    tags_read_metadata]

/-- **Metadata is discarded exactly if the passage has tags or the first bracket group in the
metadata is blank.** A passage that is given no tags has those that stand in that group, so headers
with different metadata say the same only if they have tags or these are the same. -/
theorem readHeader_spellDecorated_exact (htitle : trim title.toList = title.toList)
    (hbare : ∀ c ∈ title.toList, c ∉ brackets) (htags : ∀ tag ∈ tags, IsLabel tag.toList)
    {metadata : List Char} (hmetadata : '\x7d' ∉ metadata) :
    (Header.read (spellDecorated title tags metadata) = ⟨title, tags⟩ ↔
        tags ≠ [] ∨ ∀ inner, IsFirstGroup '[' ']' inner metadata → inner.all isBlank = true) ∧
      (∀ inner, IsFirstGroup '[' ']' inner metadata →
        Header.read (spellDecorated title [] metadata) =
          ⟨title, (words inner).map String.ofList⟩) ∧
      ∀ other, '\x7d' ∉ other →
        (Header.read (spellDecorated title tags metadata) =
            Header.read (spellDecorated title tags other) ↔
          tags ≠ [] ∨ (Header.read metadata).tags = (Header.read other).tags) := by
  have hread := fun {m : List Char} (hm : '\x7d' ∉ m) =>
    readHeader_spellDecorated htitle hbare htags hm
  refine ⟨?_, fun inner hinner => ?_, fun other hother => ?_⟩
  · rw [hread hmetadata, ← tags_read_eq_nil_iff]
    by_cases hnil : tags = []
    · simp [hnil]
    · simp [hnil]
  · have hnone : ∀ tag ∈ ([] : List String), IsLabel tag.toList := fun _ htag => by cases htag
    rw [readHeader_spellDecorated htitle hbare hnone hmetadata, if_pos rfl,
      tags_read_of_isFirstGroup hinner]
  · rw [hread hmetadata, hread hother]
    by_cases hnil : tags = []
    · simp [hnil]
    · simp [hnil]

/-- A town square whose metadata has brackets of its own, next to its tags. -/
theorem readHeader_spellDecorated_exact_square :
    trim "Town Square".toList = "Town Square".toList ∧
      (∀ c ∈ "Town Square".toList, c ∉ brackets) ∧
      (∀ tag ∈ ["once", "quiet"], IsLabel tag.toList) ∧
      '\x7d' ∉ "\"at\":[1,2]".toList ∧
      Header.read (spellDecorated "Town Square" ["once", "quiet"] "\"at\":[1,2]".toList) =
        ⟨"Town Square", ["once", "quiet"]⟩ := by
  have htitle : trim "Town Square".toList = "Town Square".toList := by decide
  have hbare : ∀ c ∈ "Town Square".toList, c ∉ brackets := List.all_iff_forall_prop.1 (by decide)
  have htags : ∀ tag ∈ ["once", "quiet"], IsLabel tag.toList := by decide
  have hmetadata : '\x7d' ∉ "\"at\":[1,2]".toList := by decide
  have hread := (readHeader_spellDecorated_exact htitle hbare htags hmetadata).1
  exact ⟨htitle, hbare, htags, hmetadata, hread.2 (.inl (List.cons_ne_nil _ _))⟩

/-- A cave with a bracketed word in its metadata is visited once, though it was given no tag. -/
theorem metadata_makes_passage_once :
    trim "Cave".toList = "Cave".toList ∧ (∀ c ∈ "Cave".toList, c ∉ brackets) ∧
      '\x7d' ∉ "\"note\":\"[once]\"".toList ∧
      Header.read (spellDecorated "Cave" [] "\"note\":\"[once]\"".toList) ≠ ⟨"Cave", []⟩ ∧
      Tag.once ∈ (Header.read (spellDecorated "Cave" [] "\"note\":\"[once]\"".toList)).tags := by
  have hread : Header.read (spellDecorated "Cave" [] "\"note\":\"[once]\"".toList) =
      ⟨"Cave", [Tag.once]⟩ := by decide +kernel
  refine ⟨by decide, List.all_iff_forall_prop.1 (by decide), by decide, ?_, ?_⟩
  · rw [hread]
    decide
  · rw [hread]
    exact List.mem_singleton_self _

end Script

end Skein
