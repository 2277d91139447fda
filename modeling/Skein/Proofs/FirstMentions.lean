import Mathlib.Data.List.FinRange
import Skein.Story.Check

/-!
# What the check reports, and where

The check of a story reports everything that some condition asks for and that no effect provides. A
thing can be asked for many times, in texts and for links, positively and negatively; it is reported
once, at the first of its mentions, and the reports stand in the order of these first mentions.
Items and facts are different things, also where they bear the same name.

None of this mentions how the check keeps account of what it has reported. The place of a first
mention is a place in the list of all mentions, so the reports are determined by that list and by
what the story provides: which they are, where they stand and in which order
(`Story.FindsMissing`).

What the check leaves behind are lines of text, and it is these that an author reads. Every line
names the passage and tells what is wrong there (`Story.namelessLine`, `Story.missingLine`). The
lines quote titles and names as they are, so two passages whose titles hold quotation marks may come
by the same line; one passage never gets a line about something missing twice.

The check leaves out what is provided before it looks for first mentions. That makes no difference,
because whether something is provided depends on the thing alone and not on the mention
(`firstByKey_filter`).

## Main definitions

* `Condition.request` — what a condition asks for, whatever its polarity
* `Story.effects`, `Story.mentions` — all effects and all conditions of a story, in script order
* `Story.AsksFor`, `Story.Provides` — what a passage asks for, and what it provides
* `Story.IsMissing` — what no passage provides
* `Story.firstMention` — the place at which something is asked for first
* `Story.FindsMissing` — a list is what is missing, each at its first mention
* `Story.namelessLine`, `Story.missingLine` — the lines of the report

## Main results

* `mem_firstByKey_iff`, `pairwise_firstByKey` — first members by a key, and their order
* `Story.emptyNames_eq`, `Story.unprovided_eq` — the two parts of the report
* `Story.isMissing_of_mem_defects` — what is reported as missing is missing
* `Story.message_emptyName`, `Story.message_unprovided` — how the reports read
* `Story.defects_exact` — what the check reports
-/

namespace Skein

/-! ### First members by a key -/

section FirstByKey

variable {α β γ : Type} [DecidableEq β] {key : α → β} {l : List α}

theorem firstByKey_map {seen : List β} (f : γ → α) (l : List γ) :
    firstByKey key seen (l.map f) = (firstByKey (fun c => key (f c)) seen l).map f := by
  induction l generalizing seen with
  | nil => rfl
  | cons c l ih =>
    rw [List.map_cons, firstByKey, firstByKey]
    split
    · exact ih
    · rw [ih, List.map_cons]

/-- **Members that are left out by their keys** can be left out before or after. Only the keys that
are kept have to have been seen alike. -/
theorem firstByKey_filter (key : α → β) (keep : β → Bool) {seen seen' : List β}
    (hseen : ∀ k, keep k = true → (k ∈ seen ↔ k ∈ seen')) :
    firstByKey key seen (l.filter fun a => keep (key a)) =
      (firstByKey key seen' l).filter fun a => keep (key a) := by
  induction l generalizing seen seen' with
  | nil => rfl
  | cons a l ih =>
    rw [firstByKey]
    by_cases hkeep : keep (key a) = true
    · rw [List.filter_cons_of_pos (p := fun a => keep (key a)) hkeep, firstByKey]
      by_cases hmem : key a ∈ seen'
      · rw [if_pos hmem, if_pos ((hseen _ hkeep).2 hmem), ih hseen]
      · have hboth : ∀ k, keep k = true → (k ∈ key a :: seen ↔ k ∈ key a :: seen') := by
          intro k hk
          rw [List.mem_cons, List.mem_cons, hseen k hk]
        rw [if_neg hmem, if_neg (mt (hseen _ hkeep).1 hmem), ih hboth,
          List.filter_cons_of_pos (p := fun a => keep (key a)) hkeep]
    · rw [List.filter_cons_of_neg (p := fun a => keep (key a)) hkeep]
      split
      · exact ih hseen
      · -- A key that is left out does not count as seen for those that are kept.
        have hnew : ∀ k, keep k = true → (k ∈ seen ↔ k ∈ key a :: seen') := by
          intro k hk
          have hne : k ≠ key a := fun heq => hkeep (heq ▸ hk)
          rw [List.mem_cons, or_iff_right hne, hseen k hk]
        rw [List.filter_cons_of_neg (p := fun a => keep (key a)) hkeep, ih hnew]

variable [BEq β] [LawfulBEq β]

/-- **What is kept stands first among all with its key**, if the key was not seen before. -/
theorem mem_firstByKey_iff {seen : List β} {a : α} :
    a ∈ firstByKey key seen l ↔ key a ∉ seen ∧ l[(l.map key).idxOf (key a)]? = some a := by
  induction l generalizing seen with
  | nil => simp [firstByKey]
  | cons b l ih =>
    rw [firstByKey, List.map_cons]
    by_cases hkey : key b = key a
    · rw [hkey, List.idxOf_cons_self, List.getElem?_cons_zero, Option.some.injEq]
      split
      · next hseen =>
        rw [ih]
        exact iff_of_false (fun h => h.1 hseen) (fun h => h.1 hseen)
      · next hnew =>
        rw [List.mem_cons, ih, and_iff_right hnew]
        constructor
        · rintro (rfl | ⟨hnot, -⟩)
          · rfl
          · exact absurd List.mem_cons_self hnot
        · rintro rfl
          exact .inl rfl
    · rw [List.idxOf_cons_ne _ hkey, List.getElem?_cons_succ]
      split
      · rw [ih]
      · have hne : a ≠ b := fun h => hkey (congrArg key h.symm)
        rw [List.mem_cons, or_iff_right hne, ih, List.mem_cons, or_iff_right (Ne.symm hkey)]

/-- **What is kept stands in the order in which the keys occur first.** -/
theorem pairwise_firstByKey {seen : List β} :
    (firstByKey key seen l).Pairwise fun a b =>
      (l.map key).idxOf (key a) < (l.map key).idxOf (key b) := by
  induction l generalizing seen with
  | nil => exact .nil
  | cons c l ih =>
    -- Behind the head, the places of all other keys are one further.
    have hfurther : ∀ {seen : List β}, key c ∈ seen → (firstByKey key seen l).Pairwise fun a b =>
        ((c :: l).map key).idxOf (key a) < ((c :: l).map key).idxOf (key b) := by
      intro seen hc
      refine List.Pairwise.imp_of_mem (fun {a b} ha hb hlt => ?_) ih
      have hne : ∀ a ∈ firstByKey key seen l, key c ≠ key a := fun a ha heq =>
        (mem_firstByKey_iff.1 ha).1 (heq ▸ hc)
      rw [List.map_cons, List.idxOf_cons_ne _ (hne a ha), List.idxOf_cons_ne _ (hne b hb)]
      exact Nat.succ_lt_succ hlt
    rw [firstByKey]
    split
    · next hseen => exact hfurther hseen
    · refine List.pairwise_cons.2 ⟨fun b hb => ?_, hfurther List.mem_cons_self⟩
      have hne : key c ≠ key b := fun heq =>
        (mem_firstByKey_iff.1 hb).1 (heq ▸ List.mem_cons_self)
      rw [List.map_cons, List.idxOf_cons_self, List.idxOf_cons_ne _ hne]
      exact Nat.succ_pos _

end FirstByKey

/-- What a condition asks for, whatever its polarity. -/
def Condition.request (c : Condition) : Condition.Kind × String :=
  (c.kind, c.value)

namespace Story

variable {s : Story}

/-! ### Effects without a name -/

/-- All effects of a story with their passages, in script order. -/
def effects (s : Story) : List (s.PassageId × Effect) :=
  s.passageIds.flatMap fun p => (s.passage p).effects.map fun e => (p, e)

/-- The effect gives an item or a fact without a name. -/
def IsNameless (e : Effect) : Prop :=
  (e.kind = .addItem ∨ e.kind = .addFact) ∧ e.value = ""

instance : DecidablePred IsNameless := fun _ =>
  inferInstanceAs (Decidable (_ ∧ _))

/-- **The first part of the report**: the effects without a name. -/
theorem emptyNames_eq (s : Story) :
    s.emptyNames = (s.effects.filter fun m => IsNameless m.2).map fun m =>
      .emptyName (s.passage m.1).title m.2.kind := by
  have hpassages : s.passages = s.passageIds.map s.passage := (List.map_get_finRange _).symm
  have hnameless : (fun e : Effect => (e.kind = .addItem || e.kind = .addFact) && e.value = "") =
      fun e => decide (IsNameless e) := by
    funext e
    rw [Bool.eq_iff_iff, decide_eq_true_iff]
    simp [IsNameless]
  rw [emptyNames, hpassages, List.flatMap_map, effects, List.filter_flatMap, List.map_flatMap]
  refine List.flatMap_congr fun p _ => ?_
  rw [List.filter_map, List.map_map]
  dsimp only
  rw [hnameless]
  rfl

/-! ### Mentions -/

/-- All conditions of a story with the passages that they stand in: passage by passage, and within a
passage first those of its text and then those of its links. -/
def mentions (s : Story) : List (s.PassageId × Condition) :=
  s.passageIds.flatMap fun p =>
    ((s.passage p).segments.flatMap Segment.conditions ++
      (s.linksFrom p).flatMap fun l => (s.link l).conditions).map fun c => (p, c)

/-- A condition stands at a text or at a link of the passage. -/
def AsksFor (s : Story) (p : s.PassageId) (c : Condition) : Prop :=
  (∃ segment ∈ (s.passage p).segments, c ∈ segment.conditions) ∨
    ∃ l, (s.link l).source = p ∧ c ∈ (s.link l).conditions

theorem mem_mentions {p : s.PassageId} {c : Condition} : (p, c) ∈ s.mentions ↔ s.AsksFor p c := by
  have hpassage : (p, c) ∈ s.mentions ↔
      c ∈ (s.passage p).segments.flatMap Segment.conditions ++
        (s.linksFrom p).flatMap fun l => (s.link l).conditions := by
    simp only [mentions, List.mem_flatMap, List.mem_map, Prod.mk.injEq]
    constructor
    · rintro ⟨q, -, d, hd, rfl, rfl⟩
      exact hd
    · exact fun hc => ⟨p, mem_passageIds p, c, hc, rfl, rfl⟩
  rw [hpassage, AsksFor, List.mem_append, List.mem_flatMap, List.mem_flatMap]
  simp only [mem_linksFrom]

/-- The place in the story at which something is asked for first. -/
def firstMention (s : Story) (request : Condition.Kind × String) : Nat :=
  (s.mentions.map fun m => m.2.request).idxOf request

theorem mem_map_request_iff {kind : Condition.Kind} {name : String} :
    (kind, name) ∈ s.mentions.map (fun m => m.2.request) ↔
      ∃ p positive, s.AsksFor p ⟨positive, kind, name⟩ := by
  constructor
  · intro h
    obtain ⟨⟨p, positive, kind, name⟩, hm, hrequest⟩ := List.mem_map.1 h
    obtain ⟨rfl, rfl⟩ := Prod.mk.inj hrequest
    exact ⟨p, positive, mem_mentions.1 hm⟩
  · rintro ⟨p, positive, h⟩
    exact List.mem_map.2 ⟨_, mem_mentions.2 h, rfl⟩

/-! ### What is missing -/

/-- Some effect of the passage provides a name. -/
def Provides (s : Story) (p : s.PassageId) (kind : Condition.Kind) (name : String) : Prop :=
  ∃ k, kind.provider? = some k ∧ ⟨k, name⟩ ∈ (s.passage p).effects

/-- An item or a fact that no effect with a name provides. -/
def IsMissing (s : Story) (kind : Condition.Kind) (name : String) : Prop :=
  kind ≠ .hasMoney ∧ ∀ p, s.Provides p kind name → name = ""

/-- Whether the check counts something that is asked for as missing. -/
def isUnprovided (s : Story) (request : Condition.Kind × String) : Bool :=
  match request.1.provider? with
  | none => false
  | some k => !s.isProvided k request.2

theorem isProvided_eq_true_iff {k : Effect.Kind} {name : String} :
    s.isProvided k name = true ↔ name ≠ "" ∧ ∃ p, ⟨k, name⟩ ∈ (s.passage p).effects := by
  rw [isProvided, Bool.and_eq_true, decide_eq_true_eq, List.any_eq_true]
  refine and_congr_right fun _ => ⟨?_, ?_⟩
  · rintro ⟨passage, hpassage, heffect⟩
    obtain ⟨p, rfl⟩ := List.mem_iff_get.1 hpassage
    exact ⟨p, List.contains_iff_mem.1 heffect⟩
  · rintro ⟨p, heffect⟩
    exact ⟨s.passage p, List.get_mem _ p, List.contains_iff_mem.2 heffect⟩

theorem isUnprovided_iff {kind : Condition.Kind} {name : String} :
    s.isUnprovided (kind, name) = true ↔ s.IsMissing kind name := by
  have hmissing : ∀ k, kind.provider? = some k →
      ((!s.isProvided k name) = true ↔ ∀ p, s.Provides p kind name → name = "") := by
    intro k hk
    rw [Bool.not_eq_true', Bool.eq_false_iff, ne_eq, isProvided_eq_true_iff]
    constructor
    · rintro h p ⟨k', hk', heffect⟩
      obtain rfl := Option.some.inj (hk.symm.trans hk')
      exact of_not_not fun hname => h ⟨hname, p, heffect⟩
    · rintro h ⟨hname, p, heffect⟩
      exact hname (h p ⟨k, hk, heffect⟩)
  cases kind with
  | hasItem => exact (hmissing _ rfl).trans (and_iff_right (by decide)).symm
  | fact => exact (hmissing _ rfl).trans (and_iff_right (by decide)).symm
  | hasMoney => exact iff_of_false Bool.false_ne_true fun h => h.1 rfl

/-! ### Reports -/

/-- The first mentions of everything that is missing. -/
def missingMentions (s : Story) : List (s.PassageId × Condition) :=
  (firstByKey (fun m => m.2.request) [] s.mentions).filter fun m => s.isUnprovided m.2.request

/-- **The second part of the report**: what is missing, at its first mentions. -/
theorem unprovided_eq (s : Story) :
    (firstByKey (fun mention : String × Condition => (mention.2.kind, mention.2.value)) []
      s.unprovidedMentions).map (fun (title, c) => .unprovided title c.kind c.value) =
    s.missingMentions.map fun m => Defect.unprovided (s.passage m.1).title m.2.kind m.2.value := by
  have hmentions : s.unprovidedMentions =
      (s.mentions.filter fun m => s.isUnprovided m.2.request).map fun m =>
        ((s.passage m.1).title, m.2) := by
    have htitles : (s.passageIds.flatMap fun p =>
        (s.conditionsOf p).map fun c => ((s.passage p).title, c)) =
          s.mentions.map fun m => ((s.passage m.1).title, m.2) := by
      rw [mentions, List.map_flatMap]
      refine List.flatMap_congr fun p _ => ?_
      rw [List.map_map]
      rfl
    rw [unprovidedMentions, htitles, List.filter_map]
    rfl
  rw [hmentions, firstByKey_map, List.map_map]
  have hfilter : firstByKey (fun m => m.2.request) []
      (s.mentions.filter fun m => s.isUnprovided m.2.request) = s.missingMentions :=
    firstByKey_filter (fun m : s.PassageId × Condition => m.2.request) s.isUnprovided
      fun _ _ => Iff.rfl
  rw [← hfilter]
  rfl

theorem mem_missingMentions_iff {m : s.PassageId × Condition} :
    m ∈ s.missingMentions ↔
      s.mentions[s.firstMention m.2.request]? = some m ∧ s.IsMissing m.2.kind m.2.value := by
  rw [missingMentions, List.mem_filter, mem_firstByKey_iff, and_iff_right List.not_mem_nil]
  exact and_congr_right fun _ => isUnprovided_iff

/-- **What is reported as missing is missing.** -/
theorem isMissing_of_mem_defects {title : String} {kind : Condition.Kind} {name : String}
    (h : Defect.unprovided title kind name ∈ s.defects) : s.IsMissing kind name := by
  rcases List.mem_append.1 h with h | h
  · simp [emptyNames] at h
  · rw [unprovided_eq] at h
    obtain ⟨m, hm, heq⟩ := List.mem_map.1 h
    obtain ⟨-, rfl, rfl⟩ := Defect.unprovided.inj heq
    exact (mem_missingMentions_iff.1 hm).2

/-- Whatever is asked for is mentioned first somewhere. -/
theorem exists_first_mention {request : Condition.Kind × String}
    (h : request ∈ s.mentions.map fun m => m.2.request) :
    ∃ m, s.mentions[s.firstMention request]? = some m ∧ m.2.request = request := by
  have hlt := List.idxOf_lt_length_of_mem h
  have hrequest := List.getElem_idxOf hlt
  rw [List.getElem_map] at hrequest
  exact ⟨_, List.getElem?_eq_getElem _, hrequest⟩

/-- **What is missing**: whatever some condition asks for and no effect provides. -/
theorem mem_map_request_missingMentions {kind : Condition.Kind} {name : String} :
    (kind, name) ∈ s.missingMentions.map (fun m => m.2.request) ↔
      (∃ p positive, s.AsksFor p ⟨positive, kind, name⟩) ∧ s.IsMissing kind name := by
  rw [← mem_map_request_iff]
  constructor
  · intro h
    obtain ⟨m, hm, hrequest⟩ := List.mem_map.1 h
    obtain ⟨rfl, rfl⟩ := Prod.mk.inj hrequest
    obtain ⟨hfirst, hmissing⟩ := mem_missingMentions_iff.1 hm
    exact ⟨List.mem_map_of_mem (List.mem_of_getElem? hfirst), hmissing⟩
  · rintro ⟨h, hmissing⟩
    obtain ⟨m, hfirst, hrequest⟩ := exists_first_mention h
    refine List.mem_map.2 ⟨m, mem_missingMentions_iff.2 ⟨by rwa [hrequest], ?_⟩, hrequest⟩
    obtain ⟨rfl, rfl⟩ := Prod.mk.inj hrequest
    exact hmissing

/-- **A list is what is missing in a story**, told by first mentions. Something is missing if a
condition of some text or link asks for it, with whatever polarity, and it is an item or a fact that
no effect with a name provides; an item and a fact of one name are two things. -/
structure FindsMissing (s : Story) (found : List (s.PassageId × Condition)) : Prop where
  /-- What is found is asked for and missing, and all that is asked for and missing is found. -/
  mem_iff : ∀ kind name, (kind, name) ∈ found.map (fun m => m.2.request) ↔
    (∃ p positive, s.AsksFor p ⟨positive, kind, name⟩) ∧ s.IsMissing kind name
  /-- It is found once. -/
  nodup : (found.map fun m => m.2.request).Nodup
  /-- It is found where it is mentioned first. -/
  first : ∀ m ∈ found, s.mentions[s.firstMention m.2.request]? = some m
  /-- It is found in the order of these first mentions. -/
  ordered : found.Pairwise fun m m' => s.firstMention m.2.request < s.firstMention m'.2.request

theorem pairwise_missingMentions (s : Story) :
    s.missingMentions.Pairwise fun m m' =>
      s.firstMention m.2.request < s.firstMention m'.2.request :=
  pairwise_firstByKey.filter _

theorem findsMissing_missingMentions (s : Story) : s.FindsMissing s.missingMentions where
  mem_iff kind name := mem_map_request_missingMentions
  nodup := by
    refine List.pairwise_map.2 (s.pairwise_missingMentions.imp fun hlt heq => ?_)
    rw [heq] at hlt
    exact Nat.lt_irrefl _ hlt
  first m hm := (mem_missingMentions_iff.1 hm).1
  ordered := s.pairwise_missingMentions

/-- Nothing that is found is an amount of money. -/
theorem FindsMissing.kind_ne {found : List (s.PassageId × Condition)} (h : s.FindsMissing found)
    {m : s.PassageId × Condition} (hm : m ∈ found) : m.2.kind ≠ .hasMoney :=
  ((h.mem_iff _ _).1 (List.mem_map_of_mem hm)).2.1

/-! ### Lines -/

/-- What an author is told of an effect without a name: the passage, and what the effect gives. -/
def namelessLine (s : Story) (m : s.PassageId × Effect) : String :=
  "Passage '" ++ (s.passage m.1).title ++ "': " ++
    (if m.2.kind = .addItem then "addItem" else "addFact") ++ " with an empty name"

/-- What an author is told of something that is missing: the passage, whether it is an item or a
fact, its name, and what could provide it. -/
def missingLine (s : Story) (m : s.PassageId × Condition) : String :=
  "Passage '" ++ (s.passage m.1).title ++ "': required " ++
    (if m.2.kind = .hasItem then "item" else "fact") ++ " '" ++ m.2.value ++
    "' is never provided by " ++ (if m.2.kind = .hasItem then "addItem" else "addFact")

theorem message_emptyName {m : s.PassageId × Effect} (h : IsNameless m.2) :
    (Defect.emptyName (s.passage m.1).title m.2.kind).message = s.namelessLine m := by
  have hkeyword : m.2.kind.keyword = if m.2.kind = .addItem then "addItem" else "addFact" := by
    rcases h.1 with hkind | hkind
    · rw [hkind]
      rfl
    · rw [hkind]
      rfl
  show "Passage '" ++ (s.passage m.1).title ++ "': " ++ m.2.kind.keyword ++
    " with an empty name" = s.namelessLine m
  rw [hkeyword]
  rfl

theorem message_unprovided {m : s.PassageId × Condition} (h : m.2.kind ≠ .hasMoney) :
    (Defect.unprovided (s.passage m.1).title m.2.kind m.2.value).message = s.missingLine m := by
  have hwords : m.2.kind.noun = (if m.2.kind = .hasItem then "item" else "fact") ∧
      (m.2.kind.provider?.map Effect.Kind.keyword).getD "" =
        if m.2.kind = .hasItem then "addItem" else "addFact" := by
    cases hkind : m.2.kind with
    | hasItem => exact ⟨rfl, rfl⟩
    | fact => exact ⟨rfl, rfl⟩
    | hasMoney => exact absurd hkind h
  show "Passage '" ++ (s.passage m.1).title ++ "': required " ++ m.2.kind.noun ++ " '" ++
    m.2.value ++ "' is never provided by " ++
      (m.2.kind.provider?.map Effect.Kind.keyword).getD "" = s.missingLine m
  rw [hwords.1, hwords.2]
  rfl

/-- **In one passage, a line tells what is missing.** -/
theorem request_eq_of_missingLine {m m' : s.PassageId × Condition} (hkind : m.2.kind ≠ .hasMoney)
    (hkind' : m'.2.kind ≠ .hasMoney) (hpassage : m.1 = m'.1)
    (hline : s.missingLine m = s.missingLine m') : m.2.request = m'.2.request := by
  obtain ⟨p, positive, kind, name⟩ := m
  obtain ⟨p', positive', kind', name'⟩ := m'
  obtain rfl : p = p' := hpassage
  have hrest : (if kind = .hasItem then "item" else "fact") ++ (" '" ++ (name ++
      ("' is never provided by " ++ if kind = .hasItem then "addItem" else "addFact"))) =
      (if kind' = .hasItem then "item" else "fact") ++ (" '" ++ (name' ++
      ("' is never provided by " ++ if kind' = .hasItem then "addItem" else "addFact"))) := by
    simpa only [missingLine, String.append_assoc, String.append_right_inj] using hline
  -- The first letter of the line's rest tells an item from a fact.
  have hletter := congrArg (fun text => text.toList.head?) hrest
  cases kind with
  | hasMoney => exact absurd rfl hkind
  | hasItem =>
    cases kind' with
    | hasMoney => exact absurd rfl hkind'
    | hasItem => simpa [Condition.request] using hrest
    | fact => simp at hletter
  | fact =>
    cases kind' with
    | hasMoney => exact absurd rfl hkind'
    | hasItem => simp at hletter
    | fact => simpa [Condition.request] using hrest

/-- **What the check of a story reports**: first every effect that gives an item or a fact without a
name, in script order, and then everything that is missing, once and for the passage that mentions
it first (`FindsMissing`). Every report reads as a line that names its passage and says what is
wrong there, and no passage gets two lines alike about what is missing. -/
theorem defects_exact (s : Story) :
    ∃ found : List (s.PassageId × Condition),
      s.FindsMissing found ∧
      s.defects =
        ((s.effects.filter fun m => IsNameless m.2).map fun m =>
          .emptyName (s.passage m.1).title m.2.kind) ++
        found.map (fun m => .unprovided (s.passage m.1).title m.2.kind m.2.value) ∧
      s.defects.map Defect.message =
        (s.effects.filter fun m => IsNameless m.2).map s.namelessLine ++
          found.map s.missingLine ∧
      (found.map fun m => (m.1, s.missingLine m)).Nodup := by
  have hfound := s.findsMissing_missingMentions
  have hdefects : s.defects =
      ((s.effects.filter fun m => IsNameless m.2).map fun m =>
        .emptyName (s.passage m.1).title m.2.kind) ++
      s.missingMentions.map (fun m =>
        .unprovided (s.passage m.1).title m.2.kind m.2.value) := by
    rw [defects, emptyNames_eq, unprovided_eq]
  refine ⟨s.missingMentions, hfound, hdefects, ?_, ?_⟩
  · rw [hdefects, List.map_append, List.map_map, List.map_map]
    congr 1
    · refine List.map_congr_left fun m hm => ?_
      exact message_emptyName (of_decide_eq_true (List.mem_filter.1 hm).2)
    · exact List.map_congr_left fun m hm => message_unprovided (hfound.kind_ne hm)
  · refine List.pairwise_map.2 ((List.pairwise_map.1 hfound.nodup).imp_of_mem ?_)
    intro m m' hm hm' hne heq
    obtain ⟨hpassage, hline⟩ := Prod.mk.inj heq
    exact hne (request_eq_of_missingLine (hfound.kind_ne hm) (hfound.kind_ne hm') hpassage hline)

end Story

/-! ### A lighthouse -/

/-- The lamp is asked for as an item at a text and for a link, the name of the keeper as an item and
as a fact. -/
def beacon : Story where
  title := ""
  passages := [
    ⟨"Shore", "", [⟨"Dark.\n", [⟨false, .hasItem, "lamp"⟩]⟩], [⟨.addFact, ""⟩, ⟨.addItem, "Ward"⟩],
      false⟩,
    ⟨"Tower", "", [⟨"He nods.\n", [⟨true, .fact, "Ward"⟩, ⟨true, .hasMoney, "5"⟩]⟩,
      ⟨"It burns.\n", [⟨true, .hasItem, "lamp"⟩, ⟨true, .hasItem, "Ward"⟩]⟩], [⟨.addItem, ""⟩],
      false⟩]
  links := [⟨0, 1, "Climb", [⟨true, .hasItem, ""⟩, ⟨true, .hasItem, "lamp"⟩], []⟩]
  titles_nodup := by decide

namespace beacon

/-- The place where the story begins. -/
def shore : beacon.PassageId := ⟨0, by decide⟩

/-- The place with the lamp. -/
def tower : beacon.PassageId := ⟨1, by decide⟩

/-- At the lighthouse the two effects without a name are reported first. The lamp is missing, and so
are the item without a name and the fact about the keeper, but not the item that bears his name. -/
theorem defects_exact_beacon :
    beacon.defects.map Defect.message = [
      "Passage 'Shore': addFact with an empty name",
      "Passage 'Tower': addItem with an empty name",
      "Passage 'Shore': required item 'lamp' is never provided by addItem",
      "Passage 'Shore': required item '' is never provided by addItem",
      "Passage 'Tower': required fact 'Ward' is never provided by addFact"] ∧
    ∃ found : List (beacon.PassageId × Condition),
      beacon.defects = [.emptyName "Shore" .addFact, .emptyName "Tower" .addItem] ++
        found.map (fun m => .unprovided (beacon.passage m.1).title m.2.kind m.2.value) ∧
      beacon.defects.map Defect.message =
        ["Passage 'Shore': addFact with an empty name",
          "Passage 'Tower': addItem with an empty name"] ++ found.map beacon.missingLine ∧
      (.hasItem, "") ∈ found.map (fun m => m.2.request) ∧
      (.fact, "Ward") ∈ found.map (fun m => m.2.request) ∧
      (.hasItem, "Ward") ∉ found.map (fun m => m.2.request) ∧
      (∀ m ∈ found, beacon.mentions[beacon.firstMention m.2.request]? = some m) ∧
      (found.map fun m => (m.1, beacon.missingLine m)).Nodup := by
  obtain ⟨found, hfound, hdefects, hlines, honce⟩ := beacon.defects_exact
  have hnameless : (beacon.effects.filter fun m => Story.IsNameless m.2).map (fun m =>
      Defect.emptyName (beacon.passage m.1).title m.2.kind) =
        [.emptyName "Shore" .addFact, .emptyName "Tower" .addItem] := by
    decide +kernel
  have hnamelessLines :
      (beacon.effects.filter fun m => Story.IsNameless m.2).map beacon.namelessLine =
        ["Passage 'Shore': addFact with an empty name",
          "Passage 'Tower': addItem with an empty name"] := by
    decide +kernel
  rw [hnameless] at hdefects
  rw [hnamelessLines] at hlines
  refine ⟨by decide +kernel, found, hdefects, hlines,
    (hfound.mem_iff _ _).2 ⟨⟨shore, true, ?_⟩, ?_⟩,
    (hfound.mem_iff _ _).2 ⟨⟨tower, true, ?_⟩, ?_⟩, fun h => ?_, hfound.first, honce⟩
  · exact Story.mem_mentions.1 (by decide +kernel)
  · exact Story.isUnprovided_iff.1 (by decide +kernel)
  · exact Story.mem_mentions.1 (by decide +kernel)
  · exact Story.isUnprovided_iff.1 (by decide +kernel)
  · have hmissing := Story.isUnprovided_iff.2 ((hfound.mem_iff _ _).1 h).2
    exact absurd hmissing (by decide +kernel)

end beacon

end Skein
