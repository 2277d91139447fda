import Skein.Condition
import Skein.Player
import Skein.Text.Blank

/-!
# When conditions hold

A condition holds for a player if the answer to its question agrees with its polarity. The question
about money has no answer if the threshold is not an integer, and then neither polarity holds. A
list of conditions is a conjunction, judged from left to right up to the first that does not hold.

## Main definitions

* `Condition.answer` — the answer to the question of a condition
* `Condition.test` — whether a condition holds
* `Condition.allHold` — whether all conditions of a list hold

## Main results

* `Condition.test_negate` — the negated condition holds exactly when the condition does not
* `Condition.allHold_eq_ok_true_iff`, `Condition.allHold_eq_ok_all` — a list is a conjunction
-/

namespace Skein

namespace Condition

/-- The answer to the question of a condition; blanks around a threshold do not count. -/
def answer (c : Condition) (p : Player) : Except PlayError Bool :=
  match c.kind with
  | .hasItem => .ok (p.hasItem c.value)
  | .fact => .ok (p.hasFact c.value)
  | .hasMoney =>
    match Text.readInt? (Text.trim c.value.toList) with
    | some threshold => .ok (decide (threshold ≤ p.money))
    | none => .error (.invalidThreshold c.value)

/-- Whether a condition holds. -/
def test (c : Condition) (p : Player) : Except PlayError Bool :=
  (c.answer p).map (· == c.positive)

/-- Whether all conditions hold; those after the first that does not hold are not looked at. -/
def allHold : List Condition → Player → Except PlayError Bool
  | [], _ => .ok true
  | c :: rest, p => do
    if ← c.test p then allHold rest p else return false

/-- The negated condition holds exactly when the condition does not. -/
theorem test_negate (c : Condition) (p : Player) :
    c.negate.test p = (c.test p).map (!·) := by
  have hanswer : c.negate.answer p = c.answer p := rfl
  rw [test, test, hanswer]
  cases c.answer p with
  | error e => rfl
  | ok b => cases b <;> cases h : c.positive <;> simp [negate, Except.map, h]

/-- The conditions of a list all hold exactly if each of them does. -/
theorem allHold_eq_ok_true_iff {conditions : List Condition} {p : Player} :
    allHold conditions p = .ok true ↔ ∀ c ∈ conditions, c.test p = .ok true := by
  induction conditions with
  | nil => simp [allHold]
  | cons c rest ih =>
    rw [allHold, List.forall_mem_cons, ← ih]
    rcases c.test p with e | _ | _ <;> simp [bind, Except.bind, pure, Except.pure]

/-- Where every condition of a list can be judged, the list is judged as their conjunction. -/
theorem allHold_eq_ok_all {conditions : List Condition} {p : Player} {holds : Condition → Bool}
    (h : ∀ c ∈ conditions, c.test p = .ok (holds c)) :
    allHold conditions p = .ok (conditions.all holds) := by
  induction conditions with
  | nil => rfl
  | cons c rest ih =>
    obtain ⟨hc, hrest⟩ := List.forall_mem_cons.1 h
    rw [allHold, hc, List.all_cons]
    cases holds c with
    | false => rfl
    | true => exact ih hrest

end Condition

end Skein
