/-!
# Integers of 64 bits, as scripts write them

An amount of money is written with ASCII digits and at most one sign before them, and it must fit
into a signed word of 64 bits. Leading zeros are allowed; blanks, separators and an empty row of
digits are not.

## Main definitions

* `Text.readInt?` — the signed integer that a text writes
* `Text.readIndex?` — the unsigned integer that a text writes
* `Text.IsInt64` — the range of the signed integers
-/

namespace Skein

namespace Text

/-- The integers that fit into a signed word of 64 bits. -/
def IsInt64 (n : Int) : Prop :=
  -0x8000000000000000 ≤ n ∧ n < 0x8000000000000000

instance (n : Int) : Decidable (IsInt64 n) :=
  inferInstanceAs (Decidable (_ ∧ _))

/-- The value of a row of ASCII digits; none if it is empty or holds any other character. -/
def readDigits? (s : List Char) : Option Nat :=
  if s ≠ [] ∧ s.all Char.isDigit then
    some (s.foldl (fun n c => 10 * n + (c.toNat - '0'.toNat)) 0)
  else none

/-- The signed integer that a text writes: at most one sign, then digits, within 64 bits. -/
def readInt? (s : List Char) : Option Int :=
  let value? : Option Int :=
    match s with
    | '-' :: digits => (readDigits? digits).map fun n => -(n : Int)
    | '+' :: digits => (readDigits? digits).map Int.ofNat
    | digits => (readDigits? digits).map Int.ofNat
  value?.filter fun n => decide (IsInt64 n)

/-- The unsigned integer that a text writes: at most one plus sign, then digits, within 64 bits. -/
def readIndex? (s : List Char) : Option Nat :=
  let value? : Option Nat :=
    match s with
    | '+' :: digits => readDigits? digits
    | digits => readDigits? digits
  value?.filter (· < 0x10000000000000000)

end Text

end Skein
