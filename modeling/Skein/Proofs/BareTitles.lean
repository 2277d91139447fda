import Skein.Proofs.Headers

/-!
# Titles hold no groups

Groups are taken out of a header in two passes, and each pass puts the text before a group and the
text behind it together. The pieces may hold marks of their own, closing ones before a group and
closing ones behind it, so it has to be seen that no new group comes about where they meet.

What decides is the order of the marks alone. A text holds a group if an opening mark stands in it
and a closing mark stands anywhere behind it (`Text.HasPair`), and a text that loses some of its
characters gains no such pair (`Text.HasPair.mono`). So the second pass and the trimming cannot undo
what the first pass has reached. The first pass reaches it because no opening mark is left of the
text before a group (`Script.not_hasPair_stripGroups`).

## Main definitions

* `Text.HasPair` — a mark stands in a text, and another one behind it

## Main results

* `Script.not_hasPair_stripGroups` — no group is left
* `Script.stripGroups_of_not_hasPair` — where there is no group, nothing is taken out
* `Script.title_read_bare` — the title of a header holds no group, and it is all of the line exactly
  if the line holds none
-/

namespace Skein

namespace Text

/-! ### Pairs of marks -/

/-- A mark stands in a text, and another one stands anywhere behind it. -/
def HasPair (left right : Char) (s : List Char) : Prop :=
  ∃ before between after, s = before ++ left :: (between ++ right :: after)

variable {left right : Char} {s t : List Char}

/-- The marks are a part of the text from which only the order is seen. -/
theorem hasPair_iff_sublist : HasPair left right s ↔ [left, right].Sublist s := by
  constructor
  · rintro ⟨before, between, after, rfl⟩
    have hright : [right].Sublist (between ++ right :: after) := by simp
    exact (hright.cons_cons left).trans (List.sublist_append_right before _)
  · intro h
    obtain ⟨front, back, rfl, hleft, hback⟩ := List.cons_sublist_iff.1 h
    obtain ⟨before, between, rfl⟩ := List.append_of_mem hleft
    obtain ⟨between', after, rfl⟩ := List.append_of_mem (List.singleton_sublist.1 hback)
    exact ⟨before, between ++ between', after, by simp⟩

/-- A text that loses some of its characters gains no pair. -/
theorem HasPair.mono (hst : s.Sublist t) (h : HasPair left right s) : HasPair left right t :=
  hasPair_iff_sublist.2 ((hasPair_iff_sublist.1 h).trans hst)

theorem HasPair.left_mem (h : HasPair left right s) : left ∈ s := by
  obtain ⟨before, between, after, rfl⟩ := h
  simp

/-- A pair begins behind a text without the first of its marks. -/
theorem hasPair_append_iff (hs : left ∉ s) :
    HasPair left right (s ++ t) ↔ HasPair left right t := by
  refine ⟨fun h => ?_, HasPair.mono (List.sublist_append_right s t)⟩
  induction s with
  | nil => exact h
  | cons c s ih =>
    have hne : left ≠ c := List.ne_of_not_mem_cons hs
    rw [hasPair_iff_sublist, List.cons_append] at h
    have htail : [left, right].Sublist (s ++ t) := by
      cases h with
      | cons _ h => exact h
      | cons_cons => exact absurd rfl hne
    exact ih (List.not_mem_of_not_mem_cons hs) (hasPair_iff_sublist.2 htail)

/-- Behind an opening mark that is the first one, a pair needs no more than a closing mark. -/
theorem hasPair_append_cons_iff (hs : left ∉ s) :
    HasPair left right (s ++ left :: t) ↔ right ∈ t := by
  rw [hasPair_append_iff hs, hasPair_iff_sublist, List.cons_sublist_cons, List.singleton_sublist]

/-- Blanks around a text are in no pair of marks that can be seen. -/
theorem hasPair_trim_iff (hleft : isBlank left = false) (hright : isBlank right = false) :
    HasPair left right (trim s) ↔ HasPair left right s := by
  refine ⟨HasPair.mono (trim_sublist s), fun h => ?_⟩
  obtain ⟨before, after, hbefore, hafter, heq⟩ := exists_eq_blank_append_trim s
  have hnone : ∀ {b : List Char}, b.all isBlank = true → b.filter (!isBlank ·) = [] := by
    intro b hb
    rw [List.filter_eq_nil_iff]
    intro c hc
    simp [List.all_eq_true.1 hb c hc]
  have hvisible : s.filter (!isBlank ·) = (trim s).filter (!isBlank ·) := by
    conv_lhs => rw [heq]
    rw [List.filter_append, List.filter_append, hnone hbefore, hnone hafter, List.nil_append,
      List.append_nil]
  have hpair := (hasPair_iff_sublist.1 h).filter (!isBlank ·)
  rw [hvisible, List.filter_cons_of_pos (by simp [hleft]),
    List.filter_cons_of_pos (by simp [hright]), List.filter_nil] at hpair
  exact hasPair_iff_sublist.2 (hpair.trans List.filter_sublist)

end Text

open Text

namespace Script

/-! ### What a pass leaves -/

variable {left right : Char} {s : List Char}

/-- **No group is left.** Where the texts around a group meet, the one before it brings no opening
mark. -/
theorem not_hasPair_stripGroups (left right : Char) (s : List Char) :
    ¬ HasPair left right (stripGroups left right s).1 := by
  induction s using group_induction left right with
  | plain s hs =>
    rw [stripGroups_of_not_mem hs]
    exact fun h => hs h.left_mem
  | opened before after hbefore hafter =>
    rw [stripGroups_of_open hbefore hafter, hasPair_append_cons_iff hbefore]
    exact hafter
  | group before inner rest hbefore hinner ih =>
    rw [stripGroups_group hbefore hinner, hasPair_append_iff hbefore]
    exact ih

/-- Where there is no group, nothing is taken out. -/
theorem stripGroups_of_not_hasPair (h : ¬ HasPair left right s) :
    stripGroups left right s = (s, []) := by
  induction s using group_induction left right with
  | plain s hs => exact stripGroups_of_not_mem hs
  | opened before after hbefore hafter => exact stripGroups_of_open hbefore hafter
  | group before inner rest hbefore hinner _ =>
    exact absurd ((hasPair_append_cons_iff hbefore).2 (by simp)) h

/-! ### Titles -/

/-- A line without groups is a title and nothing else. -/
theorem readHeader_of_not_hasPair (hbracket : ¬ HasPair '[' ']' s)
    (hbrace : ¬ HasPair '\x7b' '\x7d' s) : Header.read s = ⟨String.ofList (trim s), []⟩ := by
  rw [Header.read, stripGroups_of_not_hasPair hbracket, stripGroups_of_not_hasPair hbrace]
  rfl

theorem toList_title_read (line : List Char) : (Header.read line).title.toList =
    trim (stripGroups '\x7b' '\x7d' (stripGroups '[' ']' line).1).1 :=
  String.toList_ofList

/-- **The title of a header holds no group**, of brackets or of braces. It is trimmed, and read as a
header of its own it is the same title without tags. A title is all of its line, blanks around it
apart, exactly if the line holds no group; marks that are not closed belong to it. -/
theorem title_read_bare (line : List Char) :
    let title := (Header.read line).title
    ¬ HasPair '[' ']' title.toList ∧ ¬ HasPair '\x7b' '\x7d' title.toList ∧
      trim title.toList = title.toList ∧ Header.read title.toList = ⟨title, []⟩ ∧
      (title = String.ofList (trim line) ↔
        ¬ HasPair '[' ']' line ∧ ¬ HasPair '\x7b' '\x7d' line) := by
  intro title
  have htitle : title.toList = _ := toList_title_read line
  have htrim : trim title.toList = title.toList := by rw [htitle, trim_trim]
  have hbracket : ¬ HasPair '[' ']' title.toList := by
    rw [htitle]
    exact fun h => not_hasPair_stripGroups '[' ']' line
      (h.mono ((trim_sublist _).trans (stripGroups_sublist '\x7b' '\x7d' _)))
  have hbrace : ¬ HasPair '\x7b' '\x7d' title.toList := by
    rw [htitle]
    exact fun h => not_hasPair_stripGroups '\x7b' '\x7d' _ (h.mono (trim_sublist _))
  refine ⟨hbracket, hbrace, htrim, ?_, fun heq => ?_, fun ⟨hline, hline'⟩ => ?_⟩
  · rw [readHeader_of_not_hasPair hbracket hbrace, htrim, String.ofList_toList]
  · rw [heq, String.toList_ofList, hasPair_trim_iff (by decide) (by decide)] at hbracket hbrace
    exact ⟨hbracket, hbrace⟩
  · exact congrArg Header.title (readHeader_of_not_hasPair hline hline')

/-- Groups that cross each other leave the closing mark of the second one in the title. -/
example : Header.read "Dock [a \x7bb] c\x7d ]d".toList = ⟨"Dock  c\x7d ]d", ["a", "\x7bb"]⟩ := by
  decide +kernel

end Script

end Skein
