import Skein.Select

/-!
# What it means that a computation succeeds

Reading a script, linking a draft and judging conditions are all computations that may fail. Each
is a chain of smaller ones, and the chain succeeds exactly when every link of it does. The lemmas
here take such chains apart, so that no proof further on has to look at how they are built.

## Main results

* `bind_eq_ok`, `map_eq_ok` — success of two computations in a row
* `exists_mapM_eq_ok_iff`, `mapM_eq_error_iff` — when a list of computations succeeds, and how it
  fails
* `map_eq_map_of_mapM_eq_ok` — what can be read off the results of a list of computations
* `foldlM_eq_error_iff` — how a fold of computations fails
* `exists_split_cons_iff`, `exists_first_cons_iff` — where a list is divided, its head taken apart
* `select_eq_ok`, `eq_true_of_mem_select`, `sublist_of_select` — a selection succeeds where no test
  fails, and what it selects passed and stands in the same order
* `select_filter` — what never passes can be left out of a selection
* `exists_select_sublist` — a stricter test selects fewer members
-/

namespace Skein

variable {α β ε : Type}

theorem bind_eq_ok {x : Except ε α} {f : α → Except ε β} {b : β} :
    (x >>= f) = .ok b ↔ ∃ a, x = .ok a ∧ f a = .ok b := by
  cases x with
  | error e => simp [bind, Except.bind]
  | ok a => simp [bind, Except.bind]

theorem map_eq_ok {x : Except ε α} {f : α → β} {b : β} :
    x.map f = .ok b ↔ ∃ a, x = .ok a ∧ f a = b := by
  cases x with
  | error e => simp [Except.map]
  | ok a => simp [Except.map]

theorem map_eq_error {x : Except ε α} {f : α → β} {e : ε} :
    x.map f = .error e ↔ x = .error e := by
  cases x with
  | error e => simp [Except.map]
  | ok a => simp [Except.map]

theorem mapError_eq_ok {ε' : Type} {x : Except ε α} {f : ε → ε'} {a : α} :
    x.mapError f = .ok a ↔ x = .ok a := by
  cases x with
  | error e =>
    constructor
    · intro h
      cases h
    · intro h
      cases h
  | ok b =>
    constructor
    · intro h
      exact congrArg Except.ok (Except.ok.inj h)
    · intro h
      exact congrArg Except.ok (Except.ok.inj h)

theorem mapError_eq_error {ε' : Type} {x : Except ε α} {f : ε → ε'} {e' : ε'} :
    x.mapError f = .error e' ↔ ∃ e, x = .error e ∧ f e = e' := by
  cases x with
  | error e =>
    constructor
    · intro h
      exact ⟨e, rfl, Except.error.inj h⟩
    · rintro ⟨_, he, rfl⟩
      obtain rfl := Except.error.inj he
      rfl
  | ok a =>
    refine iff_of_false (fun h => by cases h) ?_
    rintro ⟨e, he, -⟩
    cases he

theorem toOption_eq_some {x : Except ε α} {a : α} : x.toOption = some a ↔ x = .ok a := by
  cases x with
  | error e => simp [Except.toOption]
  | ok b => simp [Except.toOption]

/-! ### Lists of computations -/

section MapM

variable {f : α → Except ε β} {l : List α}

theorem mapM_cons_eq_ok {a : α} {results : List β} :
    (a :: l).mapM f = .ok results ↔
      ∃ b rest, f a = .ok b ∧ l.mapM f = .ok rest ∧ results = b :: rest := by
  rw [List.mapM_cons]
  constructor
  · intro h
    obtain ⟨b, hb, htail⟩ := bind_eq_ok.1 h
    obtain ⟨rest, hrest, hout⟩ := bind_eq_ok.1 htail
    exact ⟨b, rest, hb, hrest, (Except.ok.inj hout).symm⟩
  · rintro ⟨b, rest, hb, hrest, rfl⟩
    exact bind_eq_ok.2 ⟨b, hb, bind_eq_ok.2 ⟨rest, hrest, rfl⟩⟩

/-- What can be read off each result by itself can be read off all of them. -/
theorem map_eq_map_of_mapM_eq_ok {γ : Type} {result : β → γ} {source : α → γ} {results : List β}
    (h : l.mapM f = .ok results) (hf : ∀ a b, f a = .ok b → result b = source a) :
    results.map result = l.map source := by
  induction l generalizing results with
  | nil =>
    obtain rfl : [] = results := Except.ok.inj h
    rfl
  | cons a l ih =>
    obtain ⟨b, rest, hb, hrest, rfl⟩ := mapM_cons_eq_ok.1 h
    rw [List.map_cons, List.map_cons, hf a b hb, ih hrest]

/-- What is done to each result of a list of computations can be done to them afterwards. -/
theorem mapM_map_result {γ : Type} (f : α → Except ε β) (g : β → γ) (l : List α) :
    l.mapM (fun a => (f a).map g) = (l.mapM f).map (List.map g) := by
  induction l with
  | nil => rfl
  | cons a l ih =>
    rw [List.mapM_cons, List.mapM_cons, ih]
    cases f a with
    | error e => rfl
    | ok b =>
      cases l.mapM f with
      | error e => rfl
      | ok rest => rfl

/-- Computations that undo something done to each member of a list give back the list. -/
theorem mapM_map_eq_ok {undo : β → Except ε α} {spell : α → β}
    (h : ∀ a ∈ l, undo (spell a) = .ok a) : (l.map spell).mapM undo = .ok l := by
  induction l with
  | nil => rfl
  | cons a l ih =>
    obtain ⟨ha, hl⟩ := List.forall_mem_cons.1 h
    exact mapM_cons_eq_ok.2 ⟨a, l, ha, ih hl, rfl⟩

/-- Every result of a list of computations is the result of one of them. -/
theorem exists_mem_of_mapM_eq_ok {results : List β} (h : l.mapM f = .ok results) :
    ∀ b ∈ results, ∃ a ∈ l, f a = .ok b := by
  intro b hb
  have hmap : results.map Except.ok = l.map f := map_eq_map_of_mapM_eq_ok h fun a b hab => hab.symm
  have hmem : Except.ok b ∈ l.map f := hmap ▸ List.mem_map_of_mem hb
  exact List.mem_map.1 hmem

/-- **A list of computations succeeds if each of them does.** -/
theorem exists_mapM_eq_ok_iff :
    (∃ results, l.mapM f = .ok results) ↔ ∀ a ∈ l, ∃ b, f a = .ok b := by
  induction l with
  | nil => exact iff_of_true ⟨[], rfl⟩ fun a ha => by cases ha
  | cons a l ih =>
    rw [List.forall_mem_cons, ← ih]
    constructor
    · rintro ⟨results, h⟩
      obtain ⟨b, rest, hb, hrest, -⟩ := mapM_cons_eq_ok.1 h
      exact ⟨⟨b, hb⟩, rest, hrest⟩
    · rintro ⟨⟨b, hb⟩, rest, hrest⟩
      exact ⟨_, mapM_cons_eq_ok.2 ⟨b, rest, hb, hrest, rfl⟩⟩

theorem mapM_cons_eq_error {a : α} {e : ε} :
    (a :: l).mapM f = .error e ↔ f a = .error e ∨ (∃ b, f a = .ok b) ∧ l.mapM f = .error e := by
  rw [List.mapM_cons]
  cases ha : f a with
  | error e' =>
    constructor
    · intro h
      obtain rfl : e' = e := Except.error.inj h
      exact .inl rfl
    · rintro (h | ⟨⟨b, hb⟩, -⟩)
      · obtain rfl := Except.error.inj h
        rfl
      · cases hb
  | ok b =>
    have hsucceeds : (Except.ok b : Except ε β) ≠ .error e := by simp
    cases hl : l.mapM f with
    | error e' => exact ⟨fun h => .inr ⟨⟨b, rfl⟩, h⟩, fun h => (h.resolve_left hsucceeds).2⟩
    | ok rest => exact iff_of_false (fun h => by cases h) (by simp)

/-- A list is divided before its head, or its tail is divided. -/
theorem exists_split_cons_iff {p : List α → α → Prop} {x : α} :
    (∃ before a after, x :: l = before ++ a :: after ∧ p before a) ↔
      p [] x ∨ ∃ before a after, l = before ++ a :: after ∧ p (x :: before) a := by
  constructor
  · rintro ⟨before, a, after, heq, hp⟩
    cases before with
    | nil =>
      obtain ⟨rfl, -⟩ := List.cons.inj heq
      exact .inl hp
    | cons b before =>
      obtain ⟨rfl, rfl⟩ := List.cons.inj heq
      exact .inr ⟨before, a, after, rfl, hp⟩
  · rintro (hp | ⟨before, a, after, rfl, hp⟩)
    · exact ⟨[], x, l, rfl, hp⟩
    · exact ⟨x :: before, a, after, rfl, hp⟩

/-- The first bad member of a list is the head, or the head is good and it is the first bad one of
the tail. -/
theorem exists_first_cons_iff {good bad : α → Prop} {x : α} :
    (∃ before a after, x :: l = before ++ a :: after ∧ (∀ b ∈ before, good b) ∧ bad a) ↔
      bad x ∨ good x ∧
        ∃ before a after, l = before ++ a :: after ∧ (∀ b ∈ before, good b) ∧ bad a := by
  rw [exists_split_cons_iff (p := fun before a => (∀ b ∈ before, good b) ∧ bad a)]
  constructor
  · rintro (⟨-, hbad⟩ | ⟨before, a, after, heq, hgood, hbad⟩)
    · exact .inl hbad
    · obtain ⟨hx, hgood⟩ := List.forall_mem_cons.1 hgood
      exact .inr ⟨hx, before, a, after, heq, hgood, hbad⟩
  · rintro (hbad | ⟨hx, before, a, after, heq, hgood, hbad⟩)
    · exact .inl ⟨List.forall_mem_nil _, hbad⟩
    · exact .inr ⟨before, a, after, heq, List.forall_mem_cons.2 ⟨hx, hgood⟩, hbad⟩

/-- **A list of computations fails as the first of them that fails.** -/
theorem mapM_eq_error_iff {e : ε} :
    l.mapM f = .error e ↔
      ∃ before a after, l = before ++ a :: after ∧ (∀ b ∈ before, ∃ c, f b = .ok c) ∧
        f a = .error e := by
  induction l with
  | nil =>
    refine iff_of_false (fun h => by cases h) ?_
    rintro ⟨before, a, after, heq, -⟩
    exact absurd heq (by simp)
  | cons a l ih => rw [mapM_cons_eq_error, ih, exists_first_cons_iff]

end MapM

/-- **A fold fails as the first of its steps that fails**, with what the steps before it left. -/
theorem foldlM_eq_error_iff {f : β → α → Except ε β} {l : List α} {b : β} {e : ε} :
    l.foldlM f b = .error e ↔
      ∃ before a after c, l = before ++ a :: after ∧ before.foldlM f b = .ok c ∧
        f c a = .error e := by
  constructor
  · intro h
    induction l generalizing b with
    | nil => cases h
    | cons a l ih =>
      rw [List.foldlM_cons] at h
      cases ha : f b a with
      | error e' =>
        rw [ha] at h
        obtain rfl : e' = e := Except.error.inj h
        exact ⟨[], a, l, b, rfl, rfl, ha⟩
      | ok c =>
        rw [ha] at h
        obtain ⟨before, a', after, d, rfl, hbefore, ha'⟩ := ih h
        exact ⟨a :: before, a', after, d, rfl,
          by rw [List.foldlM_cons, ha]; exact hbefore, ha'⟩
  · rintro ⟨before, a, after, c, rfl, hbefore, ha⟩
    rw [List.foldlM_append, hbefore]
    show (f c a >>= fun c => after.foldlM f c) = .error e
    rw [ha]
    rfl

/-! ### Outcomes -/

/-- A computation that does not fail with an error succeeds. -/
theorem exists_eq_ok_or_exists_eq_error (x : Except ε α) :
    (∃ a, x = .ok a) ∨ ∃ e, x = .error e := by
  cases x with
  | error e => exact .inr ⟨e, rfl⟩
  | ok a => exact .inl ⟨a, rfl⟩

/-- What is selected passed the test. -/
theorem eq_true_of_mem_select {test : α → Except ε Bool} {l found : List α}
    (h : select test l = .ok found) : ∀ a ∈ found, test a = .ok true := by
  induction l generalizing found with
  | nil =>
    obtain rfl := Except.ok.inj h
    exact List.forall_mem_nil _
  | cons b l ih =>
    rw [select] at h
    obtain ⟨passes, htest, hrest⟩ := bind_eq_ok.1 h
    cases passes with
    | false => exact ih hrest
    | true =>
      obtain ⟨more, hmore, hfound⟩ := bind_eq_ok.1 hrest
      obtain rfl := Except.ok.inj hfound
      exact List.forall_mem_cons.2 ⟨htest, ih hmore⟩

/-- What is selected stands in the list, in the same order. -/
theorem sublist_of_select {test : α → Except ε Bool} {l found : List α}
    (h : select test l = .ok found) : found.Sublist l := by
  induction l generalizing found with
  | nil =>
    obtain rfl := Except.ok.inj h
    exact List.Sublist.refl _
  | cons b l ih =>
    rw [select] at h
    obtain ⟨passes, -, hrest⟩ := bind_eq_ok.1 h
    cases passes with
    | false => exact (ih hrest).cons b
    | true =>
      obtain ⟨more, hmore, hfound⟩ := bind_eq_ok.1 hrest
      obtain rfl := Except.ok.inj hfound
      exact (ih hmore).cons_cons b

/-- What never passes can be left out of a selection that succeeds. -/
theorem select_filter {test : α → Except ε Bool} {keep : α → Bool} {l found : List α}
    (h : select test l = .ok found) (hkeep : ∀ a ∈ l, test a = .ok true → keep a = true) :
    select test (l.filter keep) = .ok found := by
  induction l generalizing found with
  | nil => exact h
  | cons b l ih =>
    obtain ⟨hb, hl⟩ := List.forall_mem_cons.1 hkeep
    rw [select] at h
    obtain ⟨passes, htest, hrest⟩ := bind_eq_ok.1 h
    cases passes with
    | false =>
      by_cases hkept : keep b = true
      · rw [List.filter_cons_of_pos hkept, select, htest]
        exact ih hrest hl
      · rw [List.filter_cons_of_neg hkept]
        exact ih hrest hl
    | true =>
      obtain ⟨more, hmore, hfound⟩ := bind_eq_ok.1 hrest
      rw [List.filter_cons_of_pos (hb htest), select, ← hfound]
      exact bind_eq_ok.2 ⟨true, htest, bind_eq_ok.2 ⟨more, ih hmore hl, rfl⟩⟩

/-- A selection succeeds if no test fails, and then it selects what passes. -/
theorem select_eq_ok {test : α → Except ε Bool} {l : List α} (h : ∀ a ∈ l, ∃ b, test a = .ok b) :
    select test l = .ok (l.filter fun a => (test a).toOption = some true) := by
  refine select_eq_ok_filter fun a ha => ?_
  obtain ⟨b, hb⟩ := h a ha
  rw [hb]
  cases b with
  | false => rfl
  | true => rfl

/-- **A stricter test selects fewer members**, and fails for none that did not fail before. -/
theorem exists_select_sublist {test stricter : α → Except ε Bool} {l found : List α}
    (h : select test l = .ok found)
    (hstricter : ∀ a b, test a = .ok b → ∃ b', stricter a = .ok b' ∧ (b' = true → b = true)) :
    ∃ part, select stricter l = .ok part ∧ part.Sublist found := by
  induction l generalizing found with
  | nil =>
    obtain rfl := Except.ok.inj h
    exact ⟨[], rfl, List.Sublist.refl _⟩
  | cons a l ih =>
    rw [select] at h
    obtain ⟨passes, htest, hrest⟩ := bind_eq_ok.1 h
    obtain ⟨passes', htest', himp⟩ := hstricter a passes htest
    cases passes with
    | false =>
      obtain rfl : passes' = false := Bool.eq_false_iff.2 fun h => Bool.false_ne_true (himp h)
      obtain ⟨part, hpart, hsub⟩ := ih hrest
      exact ⟨part, by rw [select, htest']; exact hpart, hsub⟩
    | true =>
      obtain ⟨more, hmore, hfound⟩ := bind_eq_ok.1 hrest
      obtain rfl := Except.ok.inj hfound
      obtain ⟨part, hpart, hsub⟩ := ih hmore
      cases passes' with
      | false => exact ⟨part, by rw [select, htest']; exact hpart, hsub.cons a⟩
      | true =>
        refine ⟨a :: part, ?_, hsub.cons_cons a⟩
        rw [select]
        exact bind_eq_ok.2 ⟨true, htest', bind_eq_ok.2 ⟨part, hpart, rfl⟩⟩

end Skein
