import Skein.Ron.Name
import Skein.Text.Digits
import Skein.Text.Split

/-!
# Numbers in RON

No draft and no manifest holds a number, but one may stand where nobody looks at it, so a text with
a number has to be told from a text with an error. An integer has a sign or none, the mark of a base
or none, and digits with underscores between them; it fits into 64 bits. A number with a fraction or
an exponent is decimal. Infinities and the number that is none have names.

## Main definitions

* `Ron.skipInteger` — what follows an integer
* `Ron.skipFraction` — what follows a number with a fraction, an exponent or a name
* `Ron.skipNumber` — what follows a number of either kind
-/

namespace Skein

namespace Ron

open Text

/-! ### Integers -/

/-- The characters of an integer in any base. -/
def isIntegerChar (c : Char) : Bool :=
  (hexDigit? c).isSome || c == '_'

/-- The base that the beginning of an integer announces, and what follows the announcement. -/
def readBase : List Char → Nat × List Char
  | '0' :: 'x' :: s => (16, s)
  | '0' :: 'o' :: s => (8, s)
  | '0' :: 'b' :: s => (2, s)
  | s => (10, s)

/-- What follows an integer whose sign is already read and whose distance from zero is below
`limit`. -/
def skipMagnitude (limit : Nat) (s : List Char) : Option (List Char) := do
  let (base, s) := readBase s
  let digits := s.takeWhile isIntegerChar
  if digits.head?.all (· == '_') then none
  else
    let n ← ofDigits? base (digits.filter (· ≠ '_'))
    if n < limit then some (s.drop digits.length) else none

/-- What follows an integer: a signed one if a sign is written, else an unsigned one. -/
def skipInteger : List Char → Option (List Char)
  | '+' :: s => skipMagnitude 0x8000000000000000 s
  | '-' :: s => skipMagnitude 0x8000000000000001 s
  | s => skipMagnitude 0x10000000000000000 s

/-! ### Fractions and exponents -/

/-- The characters of a number with a fraction or an exponent. -/
def isFractionChar (c : Char) : Bool :=
  c.isDigit || c == '.' || c == 'e' || c == 'E' || c == '+' || c == '-'

/-- A text without the sign that it may begin with. -/
def dropSign : List Char → List Char
  | '+' :: s => s
  | '-' :: s => s
  | s => s

/-- Whether all of a text writes a decimal number: a sign or none, digits with at most one point
among or around them, and an exponent or none. -/
def isDecimal (s : List Char) : Bool :=
  let (mantissa, exponent) :=
    (cutWhere (fun c => c == 'e' || c == 'E') (dropSign s)).getD (dropSign s, ['0'])
  let (whole, fraction) := (cutWhere (· == '.') mantissa).getD (mantissa, [])
  whole ++ fraction ≠ [] && (whole ++ fraction).all Char.isDigit &&
    dropSign exponent ≠ [] && (dropSign exponent).all Char.isDigit

/-- The names of the infinities and of the number that is none. -/
def numberNames : List (List Char) :=
  [['i', 'n', 'f'], ['+', 'i', 'n', 'f'], ['-', 'i', 'n', 'f'],
   ['N', 'a', 'N'], ['+', 'N', 'a', 'N'], ['-', 'N', 'a', 'N']]

/-- What follows a number with a fraction, an exponent or a name. -/
def skipFraction (s : List Char) : Option (List Char) :=
  match numberNames.findSome? (skipWord · s) with
  | some rest => some rest
  | none =>
    if isDecimal (s.takeWhile isFractionChar) then some (s.dropWhile isFractionChar) else none

/-- **What follows a number.** It is taken for an integer first, unless the characters of a fraction
or an exponent reach further than those of an integer. -/
def skipNumber (s : List Char) : Option (List Char) :=
  let body := dropSign s
  if (body.takeWhile isIntegerChar).length < (body.takeWhile isFractionChar).length then
    skipFraction s
  else skipInteger s <|> skipFraction s

end Ron

end Skein
