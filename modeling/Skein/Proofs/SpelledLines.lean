import Skein.Proofs.Directives
import Skein.Proofs.Headers

/-!
# Lines that are read back

Every line of a spelled script has a reader of its own: directives, entries of a preamble, headers
and links. Each of these readers undoes the spelling of its line; for headers that was shown with
their metadata, the others follow here. What the author may write is limited by the marks that the
line itself uses, and the conditions below ask for no more than that: a value may not hold the `&&`
between clauses, and at the end of a directive not the bracket that closes it; a text that is linked
may not hold an arrow, and a target not the double bracket.

## Main definitions

* `Condition.IsSpellable`, `Condition.AllSpellable` — conditions that a directive can state
* `Effect.IsSpellable` — effects that an entry can state
* `Text.IsTag` — tags that can stand in a group of a script
* `Draft.Link.IsSpellable` — links that markup can state

## Main results

* `Script.readDirective_spellDirective` — directives are read back
* `Script.readEntry_spellEntry` — so are the entries of a preamble
* `Script.frontMarkup_spellMarkup` — so are links
-/

namespace Skein

open Text

/-! ### What lines can state -/

/-- A condition that a clause can state. -/
@[mk_iff]
structure Condition.IsSpellable (c : Condition) : Prop where
  value : IsField c.value.toList
  value_ne : c.value.toList ≠ []
  /-- The value is part of one clause. -/
  single : ¬['&', '&'] <:+: c.value.toList
  /-- A threshold of money is an integer. -/
  threshold : c.kind = .hasMoney → (readInt? c.value.toList).isSome = true

instance (c : Condition) : Decidable c.IsSpellable :=
  decidable_of_iff _ (Condition.isSpellable_iff c).symm

theorem Condition.IsSpellable.isStatable {c : Condition} (h : c.IsSpellable) : c.IsStatable :=
  ⟨h.value.trimmed, h.value_ne, h.single, h.threshold⟩

/-- Conditions that a directive can state. -/
@[mk_iff]
structure Condition.AllSpellable (conditions : List Condition) : Prop where
  each : ∀ c ∈ conditions, c.IsSpellable
  /-- The bracket that closes the directive is no part of the last value. -/
  closed : ∀ c ∈ conditions.getLast?, c.value.toList.getLast? ≠ some ']'

instance (conditions : List Condition) : Decidable (Condition.AllSpellable conditions) :=
  decidable_of_iff _ (Condition.allSpellable_iff conditions).symm

/-- An effect that an entry can state. -/
@[mk_iff]
structure Effect.IsSpellable (e : Effect) : Prop where
  value : IsField e.value.toList
  /-- An amount of money is an integer. -/
  amount : e.kind.takesAmount = true → (readInt? e.value.toList).isSome = true

instance (e : Effect) : Decidable e.IsSpellable :=
  decidable_of_iff _ (Effect.isSpellable_iff e).symm

/-- A tag that can stand in a group of a script. -/
@[mk_iff]
structure Text.IsTag (tag : List Char) : Prop where
  ne_nil : tag ≠ []
  visible : ∀ c ∈ tag, isBlank c = false
  bare : ∀ c ∈ tag, c ∉ brackets
  noMark : ¬[':', ':'] <:+: tag

instance (tag : List Char) : Decidable (IsTag tag) :=
  haveI : Decidable (∀ c ∈ tag, isBlank c = false) := List.decidableBAll _ _
  haveI : Decidable (∀ c ∈ tag, c ∉ brackets) := List.decidableBAll _ _
  decidable_of_iff _ (isTag_iff tag).symm

theorem Text.IsTag.isLabel {tag : List Char} (h : IsTag tag) : IsLabel tag :=
  ⟨h.ne_nil, h.visible, h.bare⟩

/-- A link that markup can state. -/
@[mk_iff]
structure Draft.Link.IsSpellable (l : Draft.Link) : Prop where
  text : IsField l.text.toList
  target : IsField l.target.toList
  tags : ∀ tag ∈ l.tags, IsTag tag.toList
  conditions : Condition.AllSpellable l.conditions
  /-- The first arrow is the one before the target. -/
  arrow : ¬['-', '>'] <:+: l.text.toList
  /-- The text does not close the link. -/
  text_open : ¬[']', ']'] <:+: l.text.toList
  /-- The target does not close the link. -/
  target_open : ¬[']', ']'] <:+: l.target.toList
  /-- The brackets after the target are no part of it. -/
  target_closed : l.target.toList.getLast? ≠ some ']'

instance (l : Draft.Link) : Decidable l.IsSpellable :=
  decidable_of_iff _ (Draft.Link.isSpellable_iff l).symm

namespace Script

/-! ### Directives -/

theorem isLine_clauseWord (positive : Bool) (kind : Condition.Kind) :
    IsLine (clauseWord positive kind) := by
  cases positive <;> cases kind <;> exact (by decide)

theorem isLine_spellClause {c : Condition} (h : c.IsSpellable) : IsLine (spellClause c) :=
  .append_cons (by decide) (isLine_clauseWord c.positive c.kind)
    h.value.toIsLine

/-- **Directives are read back.** -/
theorem readDirective_spellDirective {conditions : List Condition}
    (h : Condition.AllSpellable conditions) (hne : conditions ≠ []) :
    readDirective (spellDirective conditions) = .ok conditions := by
  obtain ⟨init, last, rfl⟩ := List.eq_nil_or_concat conditions |>.resolve_left hne
  rw [List.concat_eq_append] at h ⊢
  have hstatable : ∀ c ∈ init ++ [last], c.IsStatable := fun c hc => (h.each c hc).isStatable
  have hlast : last.IsStatable := hstatable last (List.mem_append_right _ List.mem_cons_self)
  have hself : last.cropped = last :=
    (cropped_eq_self_iff hlast).2 (h.closed last List.getLast?_concat)
  have hvalue : last.value ≠ "" := fun hnil => hlast.value_ne (by rw [hnil]; rfl)
  rw [readDirective_spellDirective_concat hstatable, hself, if_neg hvalue]

theorem isLine_spellDirective {conditions : List Condition}
    (h : Condition.AllSpellable conditions) : IsLine (spellDirective conditions) := by
  have hsep : ∀ s t, IsLine s → IsLine t → IsLine (s ++ " && ".toList ++ t) := by
    intro s t hs ht
    have hand : IsLine ("&&".toList ++ ' ' :: t) :=
      .append_cons (by decide) (by decide) ht
    rw [List.append_assoc]
    exact hs.append_cons (by decide) hand
  have hclauses : IsLine (spellClauses conditions) := by
    refine .intercalate hsep fun clause hclause => ?_
    obtain ⟨c, hc, rfl⟩ := List.mem_map.1 hclause
    exact isLine_spellClause (h.each c hc)
  have hif : IsLine "[if".toList := by decide
  exact hif.append_cons (by decide)
    (hclauses.append_cons (by decide) isLine_nil)

/-- A spelled directive is one. -/
theorem ofLine_spellDirective (conditions : List Condition) :
    Control.ofLine (spellDirective conditions) = .directive := by
  rw [Control.ofLine, trim_spellDirective, spellDirective_eq]
  rfl

/-! ### Entries of a preamble -/

/-- A word and a value with a colon between them. -/
def spellKeyed (keyword value : List Char) : List Char :=
  keyword ++ ':' :: ' ' :: value

/-- An entry as a line of a preamble. -/
def spellEntry : Entry → List Char
  | .heading text => spellKeyed "setTitle".toList text.toList
  | .effect e => spellKeyed e.kind.keyword.toList e.value.toList

/-- An entry that a line can state. -/
def Entry.IsSpellable : Entry → Prop
  | heading text => IsField text.toList
  | effect e => e.IsSpellable

/-- A word that can stand before the colon. -/
structure IsKeyword (keyword : List Char) : Prop where
  ne_nil : keyword ≠ []
  visible : ∀ c ∈ keyword, isBlank c = false
  noColon : ∀ c ∈ keyword, (c == ':') = false

theorem isKeyword_setTitle : IsKeyword "setTitle".toList :=
  ⟨by decide, List.all_iff_forall_prop.1 (by decide), List.all_iff_forall_prop.1 (by decide)⟩

theorem isKeyword_effect (kind : Effect.Kind) : IsKeyword kind.keyword.toList := by
  cases kind <;> exact
    ⟨by decide, List.all_iff_forall_prop.1 (by decide), List.all_iff_forall_prop.1 (by decide)⟩

/-- The value is what follows the colon, even where nothing but blanks follows it. -/
theorem exists_trim_spellKeyed {keyword value : List Char} (h : IsKeyword keyword)
    (hvalue : trim value = value) :
    ∃ rest, trim (spellKeyed keyword value) = keyword ++ ':' :: rest ∧ trim rest = value := by
  have hhead : ∀ c ∈ keyword.head?, isBlank c = false := fun c hc =>
    h.visible c (List.mem_of_mem_head? hc)
  by_cases hnil : value = []
  · subst hnil
    refine ⟨[], ?_, rfl⟩
    have hkeyed : spellKeyed keyword [] = keyword ++ [':'] ++ [' '] := by
      rw [spellKeyed, List.append_assoc]
      rfl
    rw [hkeyed, trim_append_blank (by decide)]
    exact trim_append_eq_self h.ne_nil hhead rfl (by decide)
  · obtain ⟨d, hd, hvisible⟩ := exists_getLast?_of_trim_eq_self hvalue hnil
    have hlast : (':' :: ' ' :: value).getLast? = some d := by
      rw [List.getLast?_cons_of_ne_nil (List.cons_ne_nil _ _),
        List.getLast?_cons_of_ne_nil hnil, hd]
    refine ⟨' ' :: value, ?_, ?_⟩
    · exact trim_append_eq_self h.ne_nil hhead hlast hvisible
    · rw [← List.singleton_append, trim_blank_append (by decide), hvalue]

theorem trim_keyword {keyword : List Char} (h : IsKeyword keyword) : trim keyword = keyword :=
  trim_eq_self_iff.2 ⟨fun c hc => h.visible c (List.mem_of_mem_head? hc),
    fun c hc => h.visible c (List.mem_of_getLast? hc)⟩

/-- **Entries of a preamble are read back.** -/
theorem readEntry_spellEntry {entry : Entry} (h : entry.IsSpellable) :
    Entry.read (trim (spellEntry entry)) = .ok entry := by
  cases entry with
  | heading text =>
    obtain ⟨rest, hline, hrest⟩ := exists_trim_spellKeyed isKeyword_setTitle h.trimmed
    rw [spellEntry, hline, Entry.read, cutWhere_append_cons isKeyword_setTitle.noColon rfl]
    dsimp only
    rw [trim_keyword isKeyword_setTitle, hrest, String.ofList_toList, String.ofList_toList,
      if_pos rfl]
  | effect e =>
    obtain ⟨kind, value⟩ := e
    have hkeyword := isKeyword_effect kind
    obtain ⟨rest, hline, hrest⟩ := exists_trim_spellKeyed hkeyword h.value.trimmed
    have hamount : ¬(kind.takesAmount && (readInt? value.toList).isNone) = true :=
      not_and_isNone h.amount
    have htitle : kind.keyword ≠ "setTitle" := by cases kind <;> decide
    rw [spellEntry, hline, Entry.read, cutWhere_append_cons hkeyword.noColon rfl]
    dsimp only
    rw [trim_keyword hkeyword, hrest, String.ofList_toList, String.ofList_toList, if_neg htitle,
      Effect.Kind.ofKeyword?_keyword]
    dsimp only
    rw [if_neg hamount]

theorem isLine_spellEntry {entry : Entry} (h : entry.IsSpellable) : IsLine (spellEntry entry) := by
  have hkeyed : ∀ {keyword value : List Char}, IsLine (keyword ++ [':']) → IsLine value →
      IsLine (spellKeyed keyword value) := by
    intro keyword value hkeyword hvalue
    have heq : spellKeyed keyword value = keyword ++ [':'] ++ ' ' :: value := by
      rw [spellKeyed, List.append_assoc]
      rfl
    rw [heq]
    exact hkeyword.append_cons (by decide) hvalue
  cases entry with
  | heading text => exact hkeyed (by decide) h.toIsLine
  | effect e =>
    refine hkeyed ?_ h.value.toIsLine
    cases e.kind <;> exact (by decide)

/-- Every entry has a colon, so it neither is blank nor ends the preamble. -/
theorem colon_mem_trim_spellEntry {entry : Entry} (h : entry.IsSpellable) :
    ':' ∈ trim (spellEntry entry) := by
  have hkeyed : ∀ {keyword value : List Char}, IsKeyword keyword → trim value = value →
      ':' ∈ trim (spellKeyed keyword value) := by
    intro keyword value hkeyword hvalue
    obtain ⟨rest, hline, -⟩ := exists_trim_spellKeyed hkeyword hvalue
    rw [hline]
    exact List.mem_append_right _ List.mem_cons_self
  cases entry with
  | heading text => exact hkeyed isKeyword_setTitle h.trimmed
  | effect e => exact hkeyed (isKeyword_effect e.kind) h.value.trimmed

theorem isSeparator_spellEntry {entry : Entry} (h : entry.IsSpellable) :
    isSeparator (spellEntry entry) = false := by
  refine decide_eq_false fun hseparator => ?_
  have hcolon := colon_mem_trim_spellEntry h
  rw [hseparator] at hcolon
  exact absurd hcolon (by decide)

/-! ### Headers -/

theorem isLine_of_isTag {tag : List Char} (h : IsTag tag) : IsLine tag := by
  have hvisible : ∀ c, isBlank c = true → c ∉ tag := fun c hc hmem => by
    rw [h.visible c hmem] at hc
    cases hc
  exact ⟨⟨hvisible _ (by decide), h.noMark⟩, hvisible _ (by decide)⟩

theorem isLine_spellWords {tags : List String} (h : ∀ tag ∈ tags, IsTag tag.toList) :
    IsLine (spellWords tags) := by
  refine .intercalate (fun s t hs ht => ?_) fun w hw => ?_
  · rw [List.append_assoc]
    exact hs.append_cons (by decide) ht
  · obtain ⟨tag, htag, rfl⟩ := List.mem_map.1 hw
    exact isLine_of_isTag (h tag htag)

theorem isField_spellTitleLine {title : String} {tags : List String}
    (htitle : IsField title.toList) (hne : title.toList ≠ [])
    (htags : ∀ tag ∈ tags, IsTag tag.toList) : IsField (spellTitleLine title tags) := by
  by_cases hnil : tags = []
  · rwa [spellTitleLine, if_pos hnil, List.append_nil]
  · have hgroup : IsLine ('[' :: (spellWords tags ++ ']' :: [])) :=
      .cons (by decide) ((isLine_spellWords htags).append_cons (by decide) isLine_nil)
    rw [spellTitleLine, if_neg hnil]
    refine ⟨htitle.toIsLine.append_cons (by decide) hgroup, ?_⟩
    exact trim_append_eq_self hne (trim_eq_self_iff.1 htitle.trimmed).1 List.getLast?_concat
      (by decide)

/-! ### Links -/

/-- What stands between the double brackets of a link. -/
def spellTarget (l : Draft.Link) : List Char :=
  l.text.toList ++ '-' :: '>' :: l.target.toList

/-- A link as markup. -/
def spellMarkup (l : Draft.Link) : List Char :=
  "> \x7b".toList ++ (spellWords l.tags ++ '\x7d' :: (" [[".toList ++
    (spellTarget l ++ ']' :: ']' :: [])))

theorem cutPair_spellTarget {l : Draft.Link} (h : l.IsSpellable) :
    cutPair '-' '>' (spellTarget l) = some (l.text.toList, l.target.toList) := by
  refine cutPair_append_pair ?_ _
  rw [pair_infix_concat, not_or]
  exact ⟨h.arrow, fun hend => absurd hend.2 (by decide)⟩

/-- **The parts of a link are read back.** -/
theorem link_spellTarget {l : Draft.Link} (h : l.IsSpellable) :
    Markup.link ⟨spellWords l.tags, spellTarget l⟩ l.conditions = l := by
  rw [Markup.link]
  dsimp only
  rw [cutPair_spellTarget h]
  dsimp only [Option.getD_some]
  rw [h.text.trimmed, h.target.trimmed, String.ofList_toList, String.ofList_toList,
    words_spellWords fun tag htag => (h.tags tag htag).isLabel]

/-- The first double bracket in a link is the one that closes it. -/
theorem closed_spellTarget {l : Draft.Link} (h : l.IsSpellable) :
    ¬[']', ']'] <:+: spellTarget l ++ [']'] := by
  rw [spellTarget, List.append_assoc, List.cons_append,
    pair_infix_append_cons (by decide) (by decide), ← List.nil_append ('>' :: _ ++ _),
    List.cons_append, pair_infix_append_cons (by decide) (by decide), pair_infix_concat]
  rintro (htext | hnil | htarget | hend)
  · exact h.text_open htext
  · exact absurd hnil (by decide)
  · exact h.target_open htarget
  · exact h.target_closed hend.1

theorem matchMarkup_spellMarkup {l : Draft.Link} (h : l.IsSpellable) :
    matchMarkup (spellMarkup l) = some (⟨spellWords l.tags, spellTarget l⟩, []) := by
  have hstart : trimStart (spellMarkup l) = '>' :: ' ' :: '\x7b' :: (spellWords l.tags ++
      '\x7d' :: (" [[".toList ++ (spellTarget l ++ ']' :: ']' :: []))) := rfl
  have hmarker : skipMarker (spellMarkup l) = '\x7b' :: (spellWords l.tags ++ '\x7d' ::
      (" [[".toList ++ (spellTarget l ++ ']' :: ']' :: []))) := (skipMarker_marker hstart).trans rfl
  have hwords : ∀ c ∈ spellWords l.tags, (c == '\x7d') = false :=
    beq_eq_false_of_not_mem (not_mem_of_bare
      (not_mem_brackets_of_mem_spellWords fun tag htag => (h.tags tag htag).isLabel) (by decide))
  rw [matchMarkup_eq, hmarker, matchTags_group, cutWhere_append_cons hwords rfl]
  show ((skipReserved ('[' :: '[' :: (spellTarget l ++ ']' :: ']' :: []))).bind fun inner => _) = _
  rw [skipReserved_open, Option.bind_some, cutPair_append_pair (closed_spellTarget h)]
  rfl

/-- **Links are read back**, and nothing is left of their lines. -/
theorem frontMarkup_spellMarkup {l : Draft.Link} (h : l.IsSpellable) :
    frontMarkup (spellMarkup l) = ([⟨spellWords l.tags, spellTarget l⟩], []) := by
  rw [frontMarkup_of_some (matchMarkup_spellMarkup h), frontMarkup_of_blank rfl]

theorem isLine_spellMarkup {l : Draft.Link} (h : l.IsSpellable) : IsLine (spellMarkup l) := by
  have htarget : IsLine ('>' :: (l.target.toList ++ ']' :: ']' :: [])) :=
    .cons (by decide) (h.target.toIsLine.append_cons (by decide) (.cons (by decide) isLine_nil))
  have hbody : IsLine (" [[".toList ++ (spellTarget l ++ ']' :: ']' :: [])) := by
    rw [spellTarget, List.append_assoc]
    exact .cons (by decide) (.cons (by decide) (.cons (by decide)
      (h.text.toIsLine.append_cons (by decide) htarget)))
  exact .cons (by decide) (.cons (by decide) (.cons (by decide)
    ((isLine_spellWords h.tags).append_cons (by decide) hbody)))

theorem getLast?_spellMarkup (l : Draft.Link) : (spellMarkup l).getLast? = some ']' := by
  rw [spellMarkup]
  simp [List.getLast?_append, List.getLast?_cons]

theorem ofLine_spellMarkup (l : Draft.Link) : Control.ofLine (spellMarkup l) = .prose := by
  have hline : trim (spellMarkup l) = spellMarkup l :=
    trim_eq_self rfl (getLast?_spellMarkup l) (by decide) (by decide)
  rw [Control.ofLine, hline]
  rfl

end Script

end Skein
