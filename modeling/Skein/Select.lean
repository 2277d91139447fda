/-!
# Selecting with a test that may fail

Conditions may turn out to be meaningless while they are judged, so choosing the members of a list
that pass is an operation that can fail: it fails at the first member whose test does.

## Main definitions

* `select` — the members of a list that pass a test

## Main results

* `select_eq_ok_filter` — selecting is filtering where no test fails
-/

namespace Skein

variable {α ε : Type}

/-- The members of a list that pass a test, in order; the first failing test ends the selection. -/
def select (test : α → Except ε Bool) : List α → Except ε (List α)
  | [] => .ok []
  | a :: rest => do
    if ← test a then return a :: (← select test rest) else select test rest

/-- Selecting is filtering where no test fails. -/
theorem select_eq_ok_filter {test : α → Except ε Bool} {passes : α → Bool} {l : List α}
    (h : ∀ a ∈ l, test a = .ok (passes a)) : select test l = .ok (l.filter passes) := by
  induction l with
  | nil => rfl
  | cons a rest ih =>
    have hrest := ih fun b hb => h b (List.mem_cons_of_mem a hb)
    simp only [select, h a List.mem_cons_self, hrest, bind, Except.bind, pure, Except.pure]
    cases hp : passes a <;> simp [hp]

end Skein
