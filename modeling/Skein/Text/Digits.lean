/-!
# Numbers in a base of at most sixteen

Code points and integers are written with hexadecimal digits, or with the first few of them.

## Main definitions

* `Text.hexDigit?` — the value of a digit
* `Text.ofDigits?` — the number that a row of digits writes in a base

## Main results

* `Text.ofDigits?_concat` — one more digit multiplies by the base and adds the digit
-/

namespace Skein

namespace Text

/-- The value of a hexadecimal digit. -/
def hexDigit? (c : Char) : Option Nat :=
  if '0' ≤ c ∧ c ≤ '9' then some (c.toNat - '0'.toNat)
  else if 'a' ≤ c ∧ c ≤ 'f' then some (c.toNat - 'a'.toNat + 10)
  else if 'A' ≤ c ∧ c ≤ 'F' then some (c.toNat - 'A'.toNat + 10)
  else none

/-- The value of a digit in a base. -/
def digit? (base : Nat) (c : Char) : Option Nat :=
  (hexDigit? c).filter (· < base)

/-- The number that a row of digits writes in a base; the empty row writes zero. -/
def ofDigits? (base : Nat) (digits : List Char) : Option Nat :=
  digits.foldlM (fun n c => (digit? base c).map (base * n + ·)) 0

@[simp] theorem ofDigits?_nil (base : Nat) : ofDigits? base [] = some 0 := rfl

/-- One more digit multiplies by the base and adds the digit. -/
theorem ofDigits?_concat (base : Nat) (digits : List Char) (c : Char) :
    ofDigits? base (digits ++ [c]) =
      (ofDigits? base digits).bind fun n => (digit? base c).map (base * n + ·) := by
  simp [ofDigits?, List.foldlM_append]

end Text

end Skein
