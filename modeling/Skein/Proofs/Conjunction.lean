import Skein.Proofs.Legible
import Skein.Proofs.Success

/-!
# Lists of conditions as conjunctions

A list of conditions is judged from left to right, up to the first condition that does not hold or
cannot be judged, and that one decides (`Condition.allHold_eq_iff`). So the judgement is that of a
conjunction, but for conditions that cannot be judged: a threshold that is no integer is met, or it
stands behind a condition that does not hold and is never looked at.

Which of the two happens is a matter of order. Some order brings any condition that does not hold to
the front, and some order any that cannot be judged, so wherever a list has both, it can be arranged
to be judged as false and arranged to fail (`Condition.exists_perm_allHold_iff`). That is all that
order can do. A list that holds does so in every order, because nothing in it can decide against it,
and a list of legible conditions is judged by its members alone.

An `[else]` negates every condition of its list. The negated list is no negation of the list: of two
conditions one may hold and the other not, and then neither list holds. But both never hold, as long
as there is a condition in them.

## Main definitions

* `Condition.holds` — whether a legible condition holds
* `Condition.JudgesConjunction` — what it is to judge lists as conjunctions

## Main results

* `Condition.allHold_eq_iff` — the first condition that does not hold or cannot be judged decides
* `Condition.exists_perm_allHold_iff` — what the order of a list can make of it
* `Condition.allHold_eq_of_mem_iff` — legible conditions are judged by membership
* `Condition.not_allHold_negate` — a list and its opposite do not both hold
* `Condition.allHold_is_conjunction` — all of this together
-/

namespace Skein

namespace Condition

variable {c : Condition} {cs ds : List Condition} {p : Player}

/-! ### What decides -/

/-- **The first condition that does not hold or cannot be judged decides** a list. -/
theorem allHold_eq_iff {r : Except PlayError Bool} (hr : r ≠ .ok true) :
    allHold cs p = r ↔
      ∃ before c after, cs = before ++ c :: after ∧ (∀ b ∈ before, b.test p = .ok true) ∧
        c.test p = r := by
  induction cs with
  | nil =>
    refine iff_of_false hr.symm ?_
    rintro ⟨before, c, after, heq, -⟩
    exact absurd heq (by simp)
  | cons c rest ih =>
    rw [exists_first_cons_iff, ← ih, allHold]
    rcases htest : c.test p with e | _ | _
    · exact (or_iff_left fun h => by cases h.1).symm
    · exact (or_iff_left fun h => by cases h.1).symm
    · exact ((or_iff_right hr.symm).trans (and_iff_right rfl)).symm

/-- **What the order of a list can make of it**: any condition that does not hold or cannot be
judged can be made to decide, and no other. -/
theorem exists_perm_allHold_iff {r : Except PlayError Bool} (hr : r ≠ .ok true) :
    (∃ ds, ds.Perm cs ∧ allHold ds p = r) ↔ ∃ c ∈ cs, c.test p = r := by
  constructor
  · rintro ⟨ds, hperm, h⟩
    obtain ⟨before, c, after, rfl, -, hc⟩ := (allHold_eq_iff hr).1 h
    have hmem : c ∈ before ++ c :: after := List.mem_append_right _ List.mem_cons_self
    exact ⟨c, hperm.mem_iff.1 hmem, hc⟩
  · rintro ⟨c, hmem, hc⟩
    obtain ⟨before, after, rfl⟩ := List.append_of_mem hmem
    exact ⟨c :: (before ++ after), List.perm_middle.symm,
      (allHold_eq_iff hr).2 ⟨[], c, before ++ after, rfl, List.forall_mem_nil _, hc⟩⟩

/-- A list that holds does so in every order. -/
theorem allHold_of_perm (hperm : ds.Perm cs) (h : allHold cs p = .ok true) :
    allHold ds p = .ok true := by
  rw [allHold_eq_ok_true_iff] at h ⊢
  exact fun c hc => h c (hperm.mem_iff.1 hc)

/-! ### Legible conditions -/

/-- Whether a legible condition holds; nothing is said about the others. -/
def holds (p : Player) (c : Condition) : Bool :=
  (c.test p).toOption = some true

theorem IsLegible.test_eq (h : c.IsLegible) (p : Player) : c.test p = .ok (c.holds p) := by
  obtain ⟨b, hb⟩ := h.exists_test_eq_ok p
  rw [holds, hb]
  cases b with
  | false => rfl
  | true => rfl

/-- **Legible conditions are a conjunction.** -/
theorem allHold_eq_all (h : AllLegible cs) (p : Player) : allHold cs p = .ok (cs.all (holds p)) :=
  allHold_eq_ok_all fun c hc => (h c hc).test_eq p

/-- **Legible conditions are judged by membership**: neither their order nor their number
matters. -/
theorem allHold_eq_of_mem_iff (h : AllLegible cs) (hmem : ∀ c, c ∈ ds ↔ c ∈ cs) (p : Player) :
    allHold ds p = allHold cs p := by
  have hds : AllLegible ds := fun c hc => h c ((hmem c).1 hc)
  have hall : ds.all (holds p) = cs.all (holds p) := by
    rw [Bool.eq_iff_iff, List.all_eq_true, List.all_eq_true]
    exact forall_congr' fun c => by rw [hmem]
  rw [allHold_eq_all hds, allHold_eq_all h, hall]

/-! ### Opposites -/

/-- **A list and its opposite do not both hold**, unless they are empty. -/
theorem not_allHold_negate (hne : cs ≠ []) (h : allHold cs p = .ok true) :
    allHold (cs.map negate) p ≠ .ok true := by
  obtain ⟨c, rest, rfl⟩ := List.exists_cons_of_ne_nil hne
  intro hopposite
  have hc := allHold_eq_ok_true_iff.1 h c List.mem_cons_self
  have hnot := allHold_eq_ok_true_iff.1 hopposite c.negate List.mem_cons_self
  rw [test_negate, hc] at hnot
  cases hnot

theorem allHold_singleton (c : Condition) (p : Player) : allHold [c] p = c.test p := by
  rw [allHold]
  rcases c.test p with e | _ | _
  · rfl
  · rfl
  · rfl

/-- Of a condition that can be judged and its opposite exactly one holds. -/
theorem allHold_singleton_iff (h : ∃ b, allHold [c] p = .ok b) :
    allHold [c] p = .ok true ↔ allHold [c.negate] p ≠ .ok true := by
  obtain ⟨b, hb⟩ := h
  rw [allHold_singleton] at hb ⊢
  rw [allHold_singleton, test_negate, hb]
  cases b with
  | false => decide
  | true => decide

/-! ### What a conjunction is -/

/-- **A judgement of lists of conditions is that of a conjunction**, as far as the conditions can be
judged. -/
structure JudgesConjunction (judge : List Condition → Player → Except PlayError Bool) : Prop where
  /-- A list of legible conditions is judged as the conjunction of its members. -/
  all_of_legible : ∀ cs, AllLegible cs → ∀ p, ∃ holds : Condition → Bool,
    (∀ c ∈ cs, c.test p = .ok (holds c)) ∧ judge cs p = .ok (cs.all holds)
  /-- For legible conditions neither order nor repetition matters. -/
  eq_of_mem_iff : ∀ cs, AllLegible cs → ∀ ds, (∀ c, c ∈ ds ↔ c ∈ cs) → ∀ p, judge ds p = judge cs p
  /-- Any list holds in all orders or in none. -/
  true_iff_of_perm : ∀ cs ds p, ds.Perm cs → (judge ds p = .ok true ↔ judge cs p = .ok true)
  /-- It can be arranged not to hold exactly if some member does not hold. -/
  perm_false_iff : ∀ cs p,
    (∃ ds, ds.Perm cs ∧ judge ds p = .ok false) ↔ ∃ c ∈ cs, c.test p = .ok false
  /-- It can be arranged to fail with an error exactly if some member fails with it. -/
  perm_error_iff : ∀ cs p e,
    (∃ ds, ds.Perm cs ∧ judge ds p = .error e) ↔ ∃ c ∈ cs, c.test p = .error e
  /-- There are lists of which both is true, so their order matters. -/
  order_matters : ∃ cs ds p e, ds.Perm cs ∧ judge ds p = .ok false ∧ judge cs p = .error e
  /-- A list that is not empty and its opposite never both hold. -/
  not_both : ∀ cs p, cs ≠ [] → ¬(judge cs p = .ok true ∧ judge (cs.map negate) p = .ok true)
  /-- Of a single condition that can be judged and its opposite exactly one holds. -/
  singleton_iff : ∀ c p, (∃ b, judge [c] p = .ok b) →
    (judge [c] p = .ok true ↔ judge [c.negate] p ≠ .ok true)

/-! ### A gate -/

/-- The gate is opened to those who know of the pass. -/
def knowsPass : Condition := ⟨true, .fact, "pass"⟩

/-- Ten coins are asked for at the gate, or what is written there instead of ten. -/
def paysToll (written : String) : Condition := ⟨true, .hasMoney, written⟩

/-- A player with money for the toll, who has not heard of the pass. -/
def stranger : Player := { money := 12 }

theorem judgesConjunction_allHold : JudgesConjunction allHold where
  all_of_legible cs h p := ⟨holds p, fun c hc => (h c hc).test_eq p, allHold_eq_all h p⟩
  eq_of_mem_iff cs h ds hmem p := allHold_eq_of_mem_iff h hmem p
  true_iff_of_perm cs ds p hperm := ⟨allHold_of_perm hperm.symm, allHold_of_perm hperm⟩
  perm_false_iff cs p := exists_perm_allHold_iff (by decide)
  perm_error_iff cs p e := exists_perm_allHold_iff (by simp)
  order_matters := ⟨[paysToll "ten", knowsPass], [knowsPass, paysToll "ten"], stranger,
    .invalidThreshold "ten", .swap _ _ _, by decide +kernel, by decide +kernel⟩
  not_both cs p hne h := not_allHold_negate hne h.1 h.2
  singleton_iff c p := allHold_singleton_iff

/-- **Lists of conditions are conjunctions, as far as they can be judged.** A negated condition is
judged opposite to the condition, or fails with the same error, and the judgement of a list is that
of a conjunction (`JudgesConjunction`). -/
theorem allHold_is_conjunction :
    (∀ (c : Condition) (p : Player), c.negate.test p = (c.test p).map (!·)) ∧
    JudgesConjunction allHold :=
  ⟨test_negate, judgesConjunction_allHold⟩

/-- With a toll of ten, it does not matter how often and in which order it is asked for. Where the
toll is not written as a number, the gate stays shut in either order, but in one of them the
stranger finds out why. Of a list and its opposite neither holds, because the stranger can pay and
does not know of the pass. -/
theorem allHold_is_conjunction_gate :
    AllLegible [knowsPass, paysToll " 10"] ∧
    allHold [paysToll " 10", knowsPass, paysToll " 10"] stranger =
      allHold [knowsPass, paysToll " 10"] stranger ∧
    (allHold [knowsPass, paysToll "ten"] stranger = .ok true ↔
      allHold [paysToll "ten", knowsPass] stranger = .ok true) ∧
    (∃ ds, ds.Perm [knowsPass, paysToll "ten"] ∧
      allHold ds stranger = .error (.invalidThreshold "ten")) ∧
    ¬(allHold [paysToll "10", knowsPass] stranger = .ok true ∧
      allHold [(paysToll "10").negate, knowsPass.negate] stranger = .ok true) ∧
    allHold [knowsPass.negate] stranger = .ok true ∧
    (allHold [knowsPass] stranger = .ok true ↔ allHold [knowsPass.negate] stranger ≠ .ok true) := by
  have hlegible : AllLegible [knowsPass, paysToll " 10"] := by
    refine List.forall_mem_cons.2 ⟨(fun hkind => by cases hkind), ?_⟩
    exact List.forall_mem_singleton.2 fun _ => ⟨10, by decide +kernel⟩
  have hmem : ∀ c, c ∈ [paysToll " 10", knowsPass, paysToll " 10"] ↔
      c ∈ [knowsPass, paysToll " 10"] := by
    intro c
    simp only [List.mem_cons, List.not_mem_nil, or_false]
    tauto
  obtain ⟨-, hjudge⟩ := allHold_is_conjunction
  refine ⟨hlegible, hjudge.eq_of_mem_iff _ hlegible _ hmem stranger,
    hjudge.true_iff_of_perm _ _ _ (.swap _ _ _), ?_, hjudge.not_both _ _ (by simp),
    by decide +kernel, hjudge.singleton_iff _ _ ⟨false, by decide +kernel⟩⟩
  exact (hjudge.perm_error_iff _ stranger _).2 ⟨paysToll "ten", by simp, by decide +kernel⟩

end Condition

end Skein
