import Skein.Proofs.PlainText
import Skein.Proofs.Success
import Skein.Script.Content
import Skein.Script.Preamble
import Skein.Script.Spelling

/-!
# Directives and what they spell

A directive is read from outside to inside: the brackets around it, the blanks, its word, the marks
between clauses, and in each clause the first blank. Whatever a value is made of is safe from all of
these except two. A mark `&&` would divide the value, and a bracket at the end of the last value is
taken for the end of the directive, because not one bracket is dropped from there but all of them.
So the last condition of a directive may come back without the brackets at the end of its value
(`Condition.cropped`), and if the value is made of nothing else, the directive has no value there
and cannot be read. All other conditions come back as they are, brackets included.

## Main definitions

* `Script.behindWord` — what follows the word of a directive, without the brackets at its end
* `Condition.IsStatable` — conditions that a clause can state
* `Condition.cropped` — a condition as it is read from the end of a directive

## Main results

* `Script.readDirective_eq` — directives are read clause by clause
* `Script.map_trim_splitPair_intercalate` — clauses with `&&` between them are read back
* `Script.readClause_spellClause` — so are conditions from clauses
* `Script.readDirective_spellDirective_concat` — so are conditions from directives, the last one
  without the brackets at its end
* `Script.readDirective_spellDirective_exact` — the conditions are the spelled ones exactly when no
  bracket stands there
-/

namespace Skein

open Text

namespace Text

/-! ### Words and ends of texts -/

/-- What is dropped from an end does not reach beyond a character of another class. -/
theorem dropEndWhile_append_of_stop {p : Char → Bool} {s : List Char}
    (hs : ∀ c ∈ s.getLast?, p c = false) (t : List Char) :
    dropEndWhile p (s ++ t) = s ++ dropEndWhile p t := by
  by_cases ht : t.all p = true
  · have hnil : dropEndWhile p t = [] := by
      rw [← List.nil_append t, dropEndWhile_append ht]
      rfl
    rw [dropEndWhile_append ht, dropEndWhile_eq_self hs, hnil, List.append_nil]
  · have hstop : (t.reverse.dropWhile p).isEmpty = false := by
      rw [List.isEmpty_eq_false_iff]
      intro hnil
      refine ht ?_
      rw [← List.all_reverse, ← List.takeWhile_append_dropWhile (p := p) (l := t.reverse), hnil,
        List.append_nil]
      exact List.all_takeWhile
    rw [dropEndWhile, List.reverse_append, List.dropWhile_append, hstop, if_neg Bool.false_ne_true,
      List.reverse_append, List.reverse_reverse]
    rfl

/-- What is left of a text is the beginning of it. -/
theorem dropEndWhile_isPrefix (p : Char → Bool) (s : List Char) : dropEndWhile p s <+: s := by
  obtain ⟨t, -, heq⟩ := exists_eq_dropEndWhile_append p s
  exact ⟨t, heq.symm⟩

/-- The first word of a text, and what follows the blank behind it. -/
theorem getD_cutWhere (p : Char → Bool) (s : List Char) :
    (cutWhere p s).getD (s, []) = (s.takeWhile (!p ·), (s.dropWhile (!p ·)).tail) := by
  induction s with
  | nil => rfl
  | cons c s ih =>
    rw [cutWhere]
    cases hc : p c with
    | true => simp [hc]
    | false =>
      cases hcut : cutWhere p s with
      | none =>
        rw [hcut] at ih
        obtain ⟨htake, hdrop⟩ := Prod.mk.inj ih
        simp [hc, ← htake, ← hdrop]
      | some cut =>
        rw [hcut] at ih
        obtain ⟨htake, hdrop⟩ := Prod.mk.inj ih
        simp [hc, ← htake, ← hdrop]

/-- What ends the last piece ends the pieces. -/
theorem intercalate_concat_append (sep s t : List Char) (pieces : List (List Char)) :
    sep.intercalate (pieces ++ [s ++ t]) = sep.intercalate (pieces ++ [s]) ++ t := by
  induction pieces with
  | nil => rw [List.nil_append, List.nil_append, List.intercalate_singleton,
      List.intercalate_singleton]
  | cons piece pieces ih =>
    have hcons : ∀ last : List Char, sep.intercalate (piece :: pieces ++ [last]) =
        piece ++ sep ++ sep.intercalate (pieces ++ [last]) := by
      intro last
      cases pieces with
      | nil => exact List.intercalate_cons_cons
      | cons next pieces => exact List.intercalate_cons_cons
    rw [hcons, hcons, ih, ← List.append_assoc]

/-- An integer ends with a digit. -/
theorem isDigit_of_readInt? {s : List Char} (h : (readInt? s).isSome = true) :
    ∀ c ∈ s.getLast?, c.isDigit = true := by
  have hdigits : ∀ digits : List Char, readDigits? digits ≠ none →
      digits ≠ [] ∧ ∀ c ∈ digits.getLast?, c.isDigit = true := by
    intro digits hread
    rw [readDigits?] at hread
    split at hread
    · next hall => exact ⟨hall.1, fun c hc => List.all_eq_true.1 hall.2 c (List.mem_of_getLast? hc)⟩
    · exact absurd rfl hread
  obtain ⟨n, hn⟩ := Option.isSome_iff_exists.1 h
  rw [readInt?.eq_def] at hn
  dsimp only at hn
  obtain ⟨hvalue, -⟩ := Option.filter_eq_some_iff.1 hn
  split at hvalue
  · obtain ⟨hne, hlast⟩ := hdigits _ fun hnone => by rw [hnone] at hvalue; cases hvalue
    rwa [List.getLast?_cons_of_ne_nil hne]
  · obtain ⟨hne, hlast⟩ := hdigits _ fun hnone => by rw [hnone] at hvalue; cases hvalue
    rwa [List.getLast?_cons_of_ne_nil hne]
  · exact (hdigits _ fun hnone => by rw [hnone] at hvalue; cases hvalue).2

end Text

namespace Script

/-! ### Reading directives -/

/-- The word with which a directive begins. -/
def directiveWord (positive : Bool) : List Char :=
  if positive then "if".toList else "unless".toList

/-- The conditions that clauses state. -/
def readClauses (positive : Bool) (clauses : List Char) : Except Fault (List Condition) :=
  ((splitPair '&' '&' clauses).map trim).mapM (readClause positive)

/-- What follows the word of a directive, without the brackets at its end. -/
def behindWord (tail : List Char) : List Char :=
  trimEnd (dropEndWhile (· == ']') tail)

theorem behindWord_isPrefix (tail : List Char) : behindWord tail <+: tail :=
  (dropEndWhile_isPrefix _ _).trans (dropEndWhile_isPrefix _ _)

/-- Brackets and blanks are dropped from the end only. -/
theorem behindWord_append {s : List Char} {c : Char} (hlast : s.getLast? = some c)
    (hblank : isBlank c = false) (hbracket : c ≠ ']') (t : List Char) :
    behindWord (s ++ t) = s ++ behindWord t := by
  have hstop : ∀ {p : Char → Bool}, p c = false → ∀ d ∈ s.getLast?, p d = false := by
    intro p hp d hd
    obtain rfl := Option.some.inj (hlast.symm.trans hd)
    exact hp
  have hclose : dropEndWhile (· == ']') (s ++ t) = s ++ dropEndWhile (· == ']') t :=
    dropEndWhile_append_of_stop (hstop (by simpa using hbracket)) t
  rw [behindWord, hclose, trimEnd, dropEndWhile_append_of_stop (hstop hblank)]
  rfl

/-- A blank before a text is left if anything of the text is left. -/
theorem behindWord_space (s : List Char) :
    behindWord (' ' :: s) = if behindWord s = [] then [] else ' ' :: behindWord s := by
  have hbracket : dropEndWhile (· == ']') (' ' :: s) = ' ' :: dropEndWhile (· == ']') s :=
    dropEndWhile_append_of_stop (s := [' ']) (by simp) s
  have hblank : isBlank ' ' = true := by decide
  rw [behindWord, hbracket, trimEnd, dropEndWhile_cons]
  simp only [hblank, and_true]
  rfl

/-- The bracket that closes a directive is not left. -/
theorem behindWord_concat (s : List Char) : behindWord (s ++ [']']) = behindWord s := by
  rw [behindWord, dropEndWhile_append (by decide), behindWord]

variable {line tail : List Char} {positive : Bool}

theorem ofLine_eq_directive_iff :
    Control.ofLine line = .directive ↔
      ∃ positive tail, trim line = '[' :: (directiveWord positive ++ tail) := by
  constructor
  · intro h
    rw [Control.ofLine] at h
    split at h
    · cases h
    · split at h
      · cases h
      · split at h
        · next hbegin =>
          rcases Bool.or_eq_true_iff.1 hbegin with hif | hunless
          · obtain ⟨tail, htail⟩ := List.isPrefixOf_iff_prefix.1 hif
            exact ⟨true, tail, htail.symm⟩
          · obtain ⟨tail, htail⟩ := List.isPrefixOf_iff_prefix.1 hunless
            exact ⟨false, tail, htail.symm⟩
        · cases h
  · rintro ⟨positive, tail, h⟩
    rw [Control.ofLine, h]
    cases positive <;> rfl

theorem directiveText_eq (h : trim line = '[' :: (directiveWord positive ++ tail)) :
    directiveText line = directiveWord positive ++ behindWord tail := by
  have hopen : ('[' :: (directiveWord positive ++ tail)).dropWhile (· == '[') =
      directiveWord positive ++ tail := by
    cases positive <;> rfl
  have hstart : ∀ t, trimStart (directiveWord positive ++ t) = directiveWord positive ++ t := by
    intro t
    cases positive <;> rfl
  have hclose : dropEndWhile (· == ']') (directiveWord positive ++ tail) =
      directiveWord positive ++ dropEndWhile (· == ']') tail :=
    dropEndWhile_append_of_stop (by cases positive <;> simp [directiveWord]) tail
  rw [directiveText, h, hopen, hclose, trim, hstart, trimEnd,
    dropEndWhile_append_of_stop (by cases positive <;> simp [directiveWord, isBlank])]
  rfl

/-- A directive is read clause by clause if its word ends where the word `if` or `unless` ends. -/
theorem readDirective_eq (h : trim line = '[' :: (directiveWord positive ++ tail)) :
    readDirective line =
      if (behindWord tail).takeWhile (!isBlank ·) = [] then
        readClauses positive ((behindWord tail).dropWhile (!isBlank ·)).tail
      else .error (.invalidDirective (String.ofList
        (directiveWord positive ++ (behindWord tail).takeWhile (!isBlank ·)))) := by
  have hvisible : ∀ c ∈ directiveWord positive, (!isBlank c) = true := by
    cases positive <;> exact List.all_iff_forall_prop.1 (by decide)
  rw [readDirective, directiveText_eq h]
  dsimp only
  rw [getD_cutWhere, List.takeWhile_append_of_pos hvisible, List.dropWhile_append_of_pos hvisible]
  dsimp only
  generalize (behindWord tail).takeWhile (!isBlank ·) = more
  cases more with
  | nil =>
    rw [if_pos rfl, List.append_nil]
    cases positive <;> rfl
  | cons c more =>
    rw [if_neg (List.cons_ne_nil c more)]
    cases positive <;> rfl

/-- A directive that can be read has a whole word. -/
theorem takeWhile_behindWord_of_readDirective {conditions : List Condition}
    (h : trim line = '[' :: (directiveWord positive ++ tail))
    (hread : readDirective line = .ok conditions) :
    (behindWord tail).takeWhile (!isBlank ·) = [] := by
  rw [readDirective_eq h] at hread
  by_contra hword
  rw [if_neg hword] at hread
  cases hread

/-- **What stands between the word of a directive and its bracket is read clause by clause**,
without the brackets at its own end. -/
theorem readDirective_between (positive : Bool) (text : List Char) :
    readDirective ('[' :: (directiveWord positive ++ ' ' :: (text ++ [']']))) =
      readClauses positive (behindWord (' ' :: text)).tail := by
  have hlast : ('[' :: (directiveWord positive ++ ' ' :: (text ++ [']']))).getLast? = some ']' := by
    simp [List.getLast?_cons, List.getLast?_append]
  rw [readDirective_eq (trim_eq_self rfl hlast (by decide) (by decide)), ← List.cons_append,
    behindWord_concat]
  -- If anything is left, it begins with the space.
  cases hbehind : behindWord (' ' :: text) with
  | nil => rfl
  | cons c rest =>
    have hbegin := behindWord_isPrefix (' ' :: text)
    rw [hbehind] at hbegin
    obtain rfl := (List.cons_prefix_cons.1 hbegin).1
    rfl

/-! ### Clauses -/

/-- **Clauses with `&&` between them are read back.** -/
theorem map_trim_splitPair_intercalate {clauses : List (List Char)} (hne : clauses ≠ [])
    (h : ∀ clause ∈ clauses, trim clause = clause ∧ ¬['&', '&'] <:+: clause) :
    (splitPair '&' '&' (" && ".toList.intercalate clauses)).map trim = clauses := by
  induction clauses with
  | nil => exact absurd rfl hne
  | cons clause clauses ih =>
    obtain ⟨⟨htrim, hsingle⟩, hclauses⟩ := List.forall_mem_cons.1 h
    cases clauses with
    | nil =>
      rw [List.intercalate_singleton, splitPair_of_not_infix hsingle, List.map_singleton, htrim]
    | cons next clauses =>
      have hopen : ¬['&', '&'] <:+: clause ++ [' '] ++ ['&'] := by
        rw [List.append_assoc, List.singleton_append,
          pair_infix_append_cons (by decide) (by decide), not_or]
        exact ⟨hsingle, by decide⟩
      have hjoined : " && ".toList.intercalate (clause :: next :: clauses) =
          clause ++ [' '] ++ '&' :: '&' :: ' ' :: " && ".toList.intercalate (next :: clauses) := by
        rw [List.intercalate_cons_cons]
        simp
      rw [hjoined, splitPair_append_pair hopen, List.map_cons, trim_append_blank (by decide), htrim,
        map_trim_splitPair_cons (by decide) (by decide), ih (List.cons_ne_nil _ _) hclauses]

theorem readClauses_intercalate {positive : Bool} {clauses : List (List Char)} (hne : clauses ≠ [])
    (h : ∀ clause ∈ clauses, trim clause = clause ∧ ¬['&', '&'] <:+: clause) :
    readClauses positive (" && ".toList.intercalate clauses) =
      clauses.mapM (readClause positive) := by
  rw [readClauses, map_trim_splitPair_intercalate hne h]

/-- No fault is found with a value that is an integer where one is asked for. -/
theorem not_and_isNone {asked : Bool} {n? : Option Int} (h : asked = true → n?.isSome = true) :
    ¬(asked && n?.isNone) = true := by
  intro hfault
  obtain ⟨hasked, hnone⟩ := Bool.and_eq_true_iff.1 hfault
  rw [Option.isNone_iff_eq_none.1 hnone] at h
  exact Bool.false_ne_true (h hasked)

end Script

/-- A condition that a clause can state. -/
@[mk_iff]
structure Condition.IsStatable (c : Condition) : Prop where
  trimmed : trim c.value.toList = c.value.toList
  value_ne : c.value.toList ≠ []
  /-- The value is part of one clause. -/
  single : ¬['&', '&'] <:+: c.value.toList
  /-- A threshold of money is an integer. -/
  threshold : c.kind = .hasMoney → (readInt? c.value.toList).isSome = true

instance (c : Condition) : Decidable c.IsStatable :=
  decidable_of_iff _ (Condition.isStatable_iff c).symm

namespace Script

/-- The first word of a clause. -/
def clauseWord (positive : Bool) (kind : Condition.Kind) : List Char :=
  (if positive then [] else ['!']) ++ kind.keyword.toList

theorem spellClause_eq (c : Condition) :
    spellClause c = clauseWord c.positive c.kind ++ ' ' :: c.value.toList := rfl

theorem isBlank_of_mem_clauseWord (positive : Bool) (kind : Condition.Kind) :
    ∀ b ∈ clauseWord positive kind, isBlank b = false := by
  cases positive <;> cases kind <;> exact List.all_iff_forall_prop.1 (by decide)

/-- The first word of a clause begins and ends visibly, and with no bracket. -/
theorem exists_ends_clauseWord (positive : Bool) (kind : Condition.Kind) :
    ∃ b d, (clauseWord positive kind).head? = some b ∧
      (clauseWord positive kind).getLast? = some d ∧ isBlank b = false ∧ isBlank d = false ∧
      d ≠ ']' := by
  cases positive <;> cases kind <;>
    exact ⟨_, _, rfl, rfl, by decide, by decide, by decide⟩

/-- A clause of a single word has no value. -/
theorem readClause_clauseWord (positive : Bool) (kind : Condition.Kind) :
    readClause true (clauseWord positive kind) =
      .error (.missingValue (String.ofList (clauseWord positive kind))) := by
  rw [readClause, cutWhere_eq_none (isBlank_of_mem_clauseWord positive kind)]

theorem trim_clauseWord (positive : Bool) (kind : Condition.Kind) :
    trim (clauseWord positive kind) = clauseWord positive kind := by
  obtain ⟨b, d, hb, hd, hfirst, hlast, -⟩ := exists_ends_clauseWord positive kind
  exact trim_eq_self hb hd hfirst hlast

theorem single_clauseWord (positive : Bool) (kind : Condition.Kind) :
    ¬['&', '&'] <:+: clauseWord positive kind := by
  cases positive <;> cases kind <;> decide

/-- **Conditions are read back from clauses.** -/
theorem readClause_spellClause {c : Condition} (h : c.IsStatable) :
    readClause true (spellClause c) = .ok c := by
  obtain ⟨positive, kind, value⟩ := c
  have hcut : cutWhere isBlank (spellClause ⟨positive, kind, value⟩) =
      some (clauseWord positive kind, value.toList) :=
    cutWhere_append_cons (isBlank_of_mem_clauseWord positive kind) (by decide) _
  have hnegated : decide ((clauseWord positive kind).head? = some '!') = !positive := by
    cases positive <;> cases kind <;> decide
  have hkeyword : String.ofList (if (clauseWord positive kind).head? = some '!'
      then (clauseWord positive kind).tail else clauseWord positive kind) = kind.keyword := by
    cases positive <;> cases kind <;> decide
  have hthreshold : ¬(decide (kind = .hasMoney) && (readInt? value.toList).isNone) = true :=
    not_and_isNone fun hkind => h.threshold (of_decide_eq_true hkind)
  rw [readClause, hcut]
  dsimp only
  rw [h.trimmed, if_neg h.value_ne, hnegated, hkeyword, Condition.Kind.ofKeyword?_keyword]
  dsimp only
  rw [if_neg hthreshold, String.ofList_toList]
  cases positive <;> rfl

/-- A clause has no blanks around it. -/
theorem trim_spellClause {c : Condition} (h : c.IsStatable) :
    trim (spellClause c) = spellClause c := by
  obtain ⟨b, -, hb, -, hfirst, -⟩ := exists_ends_clauseWord c.positive c.kind
  obtain ⟨d, hd, hlast⟩ := exists_getLast?_of_trim_eq_self h.trimmed h.value_ne
  refine trim_eq_self ?_ ?_ hfirst hlast
  · rw [spellClause_eq, List.head?_append, hb]
    rfl
  · rw [spellClause_eq, List.getLast?_append_of_ne_nil _ (List.cons_ne_nil _ _),
      List.getLast?_cons_of_ne_nil h.value_ne, hd]

/-- No `&&` arises in a clause. -/
theorem single_spellClause {c : Condition} (h : c.IsStatable) :
    ¬['&', '&'] <:+: spellClause c := by
  rw [spellClause_eq, pair_infix_append_cons (by decide) (by decide), not_or]
  exact ⟨single_clauseWord c.positive c.kind, h.single⟩

/-! ### The last condition of a directive -/

end Script

/-- **A condition as it is read from the end of a directive**: the brackets at the end of its value
are taken for the end of the directive. -/
def Condition.cropped (c : Condition) : Condition :=
  { c with value := String.ofList (Script.behindWord c.value.toList) }

namespace Script

theorem behindWord_eq_self_iff {s : List Char} (h : trim s = s) :
    behindWord s = s ↔ s.getLast? ≠ some ']' := by
  constructor
  · intro hself hlast
    obtain ⟨t, rfl⟩ := List.getLast?_eq_some_iff.1 hlast
    rw [behindWord_concat] at hself
    have hle := (behindWord_isPrefix t).length_le
    rw [hself, List.length_append, List.length_singleton] at hle
    omega
  · intro hlast
    have hclose : dropEndWhile (· == ']') s = s :=
      dropEndWhile_eq_self fun c hc => beq_eq_false_iff_ne.2 fun heq => hlast (heq ▸ hc)
    rw [behindWord, hclose]
    exact dropEndWhile_eq_self (trim_eq_self_iff.1 h).2

/-- A condition is read as it is if no bracket ends its value. -/
theorem cropped_eq_self_iff {c : Condition} (h : c.IsStatable) :
    c.cropped = c ↔ c.value.toList.getLast? ≠ some ']' := by
  rw [← behindWord_eq_self_iff h.trimmed]
  constructor
  · intro heq
    have hvalue := congrArg (String.toList ∘ Condition.value) heq
    simpa [Condition.cropped] using hvalue
  · intro heq
    rw [Condition.cropped, heq, String.ofList_toList]

/-- What is left of a condition can be stated, if anything is left of its value. -/
theorem isStatable_cropped {c : Condition} (h : c.IsStatable)
    (hne : behindWord c.value.toList ≠ []) : c.cropped.IsStatable := by
  have hvalue : c.cropped.value.toList = behindWord c.value.toList := String.toList_ofList
  have hbegin := behindWord_isPrefix c.value.toList
  refine ⟨?_, ?_, ?_, fun hkind => ?_⟩
  · rw [hvalue]
    refine trim_eq_self_iff.2 ⟨?_, isBlank_of_mem_getLast?_trimEnd⟩
    obtain ⟨rest, hrest⟩ := hbegin
    have hhead := (trim_eq_self_iff.1 h.trimmed).1
    rwa [← hrest, List.head?_append_of_ne_nil _ hne] at hhead
  · rwa [hvalue]
  · rw [hvalue]
    exact fun hpair => h.single (hpair.trans hbegin.isInfix)
  · -- A threshold ends with a digit, so nothing of it is dropped.
    have hread := h.threshold hkind
    have hlast : c.value.toList.getLast? ≠ some ']' := fun hlast =>
      absurd (isDigit_of_readInt? hread _ hlast) (by decide)
    rwa [hvalue, (behindWord_eq_self_iff h.trimmed).2 hlast]

/-! ### Directives -/

/-- The clauses of a directive, as they are spelled between its words and its bracket. -/
def spellClauses (conditions : List Condition) : List Char :=
  " && ".toList.intercalate (conditions.map spellClause)

theorem spellDirective_eq (conditions : List Condition) :
    spellDirective conditions =
      '[' :: (directiveWord true ++ ' ' :: (spellClauses conditions ++ [']'])) := rfl

theorem trim_spellDirective (conditions : List Condition) :
    trim (spellDirective conditions) = spellDirective conditions := by
  have hlast : (spellDirective conditions).getLast? = some ']' := by
    simp [spellDirective_eq, List.getLast?_cons, List.getLast?_append]
  exact trim_eq_self rfl hlast (by decide) (by decide)

/-- What is left of the clauses of a directive without the brackets at their end. -/
theorem behindWord_spellClauses (init : List Condition) (last : Condition) :
    behindWord (' ' :: spellClauses (init ++ [last])) =
      ' ' :: " && ".toList.intercalate (init.map spellClause ++
        [clauseWord last.positive last.kind ++ behindWord (' ' :: last.value.toList)]) := by
  obtain ⟨-, d, -, hd, -, hvisible, hbracket⟩ := exists_ends_clauseWord last.positive last.kind
  have hword : ∀ t, " && ".toList.intercalate (init.map spellClause ++
      [clauseWord last.positive last.kind ++ t]) =
      " && ".toList.intercalate (init.map spellClause ++ [clauseWord last.positive last.kind]) ++
        t := fun t => intercalate_concat_append _ _ t _
  have hlast : (' ' :: " && ".toList.intercalate (init.map spellClause ++
      [clauseWord last.positive last.kind])).getLast? = some d := by
    rw [← List.nil_append (clauseWord _ _), intercalate_concat_append, ← List.cons_append,
      List.getLast?_append, hd]
    rfl
  rw [spellClauses, List.map_append, List.map_singleton, spellClause_eq, hword, hword,
    ← List.cons_append, behindWord_append hlast hvisible hbracket, List.cons_append]

/-- **Conditions are read back from a directive, the last one without the brackets at its end**; if
nothing else is left of its value, the directive has no value there. -/
theorem readDirective_spellDirective_concat {init : List Condition} {last : Condition}
    (h : ∀ c ∈ init ++ [last], c.IsStatable) :
    readDirective (spellDirective (init ++ [last])) =
      if last.cropped.value = "" then
        .error (.missingValue (String.ofList (clauseWord last.positive last.kind)))
      else .ok (init ++ [last.cropped]) := by
  obtain ⟨hinit, hlast⟩ := List.forall_mem_append.1 h
  replace hlast := hlast last List.mem_cons_self
  have hclauses : ∀ clause, trim clause = clause → ¬['&', '&'] <:+: clause →
      ∀ piece ∈ init.map spellClause ++ [clause], trim piece = piece ∧ ¬['&', '&'] <:+: piece := by
    intro clause htrim hsingle
    refine List.forall_mem_append.2 ⟨fun piece hpiece => ?_, by simp [htrim, hsingle]⟩
    obtain ⟨c, hc, rfl⟩ := List.mem_map.1 hpiece
    exact ⟨trim_spellClause (hinit c hc), single_spellClause (hinit c hc)⟩
  have hvalue : last.cropped.value = "" ↔ behindWord last.value.toList = [] :=
    String.ofList_eq_empty_iff
  rw [spellDirective_eq, readDirective_between, behindWord_spellClauses, List.tail_cons,
    behindWord_space]
  by_cases hnil : behindWord last.value.toList = []
  · rw [if_pos hnil, if_pos (hvalue.2 hnil), List.append_nil,
      readClauses_intercalate (by simp) (hclauses _ (trim_clauseWord _ _) (single_clauseWord _ _))]
    refine mapM_eq_error_iff.2 ⟨init.map spellClause, _, [], rfl, fun clause hclause => ?_,
      readClause_clauseWord _ _⟩
    obtain ⟨c, hc, rfl⟩ := List.mem_map.1 hclause
    exact ⟨c, readClause_spellClause (hinit c hc)⟩
  · have hcropped := isStatable_cropped hlast hnil
    have hspelled : clauseWord last.positive last.kind ++ ' ' :: behindWord last.value.toList =
        spellClause last.cropped := by
      rw [spellClause_eq, Condition.cropped, String.toList_ofList]
    rw [if_neg hnil, if_neg fun h => hnil (hvalue.1 h), hspelled, readClauses_intercalate (by simp)
      (hclauses _ (trim_spellClause hcropped) (single_spellClause hcropped))]
    have hmap : init.map spellClause ++ [spellClause last.cropped] =
        (init ++ [last.cropped]).map spellClause := by simp
    rw [hmap]
    refine mapM_map_eq_ok (List.forall_mem_append.2 ⟨fun c hc => ?_, by
      simpa using readClause_spellClause hcropped⟩)
    exact readClause_spellClause (hinit c hc)

/-- **A directive states the conditions that it spells, up to the brackets at the end of the last
value.** It states exactly the spelled conditions if no bracket stands there; otherwise the last
value is read without the brackets at its end, or the directive is refused if that leaves
nothing. -/
theorem readDirective_spellDirective_exact {init : List Condition} {last : Condition}
    (h : ∀ c ∈ init ++ [last], c.IsStatable) :
    (readDirective (spellDirective (init ++ [last])) = .ok (init ++ [last]) ↔
      last.value.toList.getLast? ≠ some ']') ∧
    readDirective (spellDirective (init ++ [last])) =
      if last.cropped.value = "" then
        .error (.missingValue (String.ofList (clauseWord last.positive last.kind)))
      else .ok (init ++ [last.cropped]) := by
  have hread := readDirective_spellDirective_concat h
  have hlast : last.IsStatable := h last (List.mem_append_right _ List.mem_cons_self)
  refine ⟨?_, hread⟩
  rw [hread, ← cropped_eq_self_iff hlast]
  split
  · next hnil =>
    refine iff_of_false (by simp) fun hself => hlast.value_ne ?_
    rw [← hself, hnil]
    rfl
  · simp

/-- What is asked for where a letter has arrived: the place is known by a name with brackets, and so
is the letter. -/
def letterConditions : List Condition :=
  [⟨true, .fact, "at [home]"⟩, ⟨false, .hasMoney, "+100"⟩, ⟨true, .hasItem, "letter [torn]"⟩]

/-- The letter that is asked for is not the one that has arrived. -/
theorem readDirective_spellDirective_exact_letter :
    (∀ c ∈ letterConditions, c.IsStatable) ∧
    spellDirective letterConditions =
      "[if fact at [home] && !hasMoney +100 && hasItem letter [torn]]".toList ∧
    readDirective (spellDirective letterConditions) =
      .ok [⟨true, .fact, "at [home]"⟩, ⟨false, .hasMoney, "+100"⟩,
        ⟨true, .hasItem, "letter [torn"⟩] := by
  have hstatable : ∀ c ∈ letterConditions, c.IsStatable := by decide +kernel
  exact ⟨hstatable, by decide, (@readDirective_spellDirective_exact (letterConditions.take 2)
    ⟨true, .hasItem, "letter [torn]"⟩ hstatable).2⟩

/-- An effect can hand out the letter, but a directive cannot ask for it. -/
theorem letter_handed_out_not_asked_for :
    Entry.read "addItem: letter [torn]".toList = .ok (.effect ⟨.addItem, "letter [torn]"⟩) ∧
    (∀ c ∈ [(⟨true, .hasItem, "letter [torn]"⟩ : Condition)], c.IsStatable) ∧
    spellDirective [⟨true, .hasItem, "letter [torn]"⟩] = "[if hasItem letter [torn]]".toList ∧
    readDirective (spellDirective [⟨true, .hasItem, "letter [torn]"⟩]) =
      .ok [⟨true, .hasItem, "letter [torn"⟩] ∧
    readDirective (spellDirective [⟨true, .hasItem, "letter [torn]"⟩]) ≠
      .ok [⟨true, .hasItem, "letter [torn]"⟩] := by
  have hread : readDirective (spellDirective [⟨true, .hasItem, "letter [torn]"⟩]) =
      .ok [⟨true, .hasItem, "letter [torn"⟩] := toOption_eq_some.1 (by decide +kernel)
  refine ⟨toOption_eq_some.1 (by decide +kernel), by decide +kernel, by decide, hread, ?_⟩
  rw [hread]
  decide

end Script

end Skein
