import Skein.Ron.Layout

/-!
# What stands between brackets

Items between brackets are separated by commas, and a comma may follow the last of them. An entry
is a key, a colon and a value. An optional value that is present stands between the parentheses of
the word `Some`, and a comma may follow it as well; a document can allow that word, or its
parentheses, to be left away.

All of this is the same whatever the items are, so the readers here are given a reader for them.

## Main definitions

* `Ron.Context` — what holds in all of a document
* `Ron.readItems` — items up to a closing mark
* `Ron.readEntry` — a key and its value
* `Ron.readPresent` — what follows the word `Some`

## Main results

* `Ron.readItems_close` — between brackets there may be nothing
-/

namespace Skein

namespace Ron

variable {α β : Type}

/-- What holds in all of a document. -/
structure Context where
  /-- Whether an optional value may be given without the word `Some`. -/
  implicitSome : Bool
  /-- A bound for the items between any two brackets; the length of the text is one. -/
  itemLimit : Nat

/-- **Items up to a closing mark**, and what follows it. The number bounds how many there may be,
the closing mark after a last comma included. -/
def readItems (close : Char) (item : List Char → Option (α × List Char)) :
    Nat → List Char → Option (List α × List Char)
  | 0, _ => none
  | n + 1, s => do
    let s ← skipLayout s
    match expect [close] s with
    | some rest => return ([], rest)
    | none =>
      let (first, s) ← item s
      let s ← skipLayout s
      match expect [','] s with
      | some s =>
        let (others, rest) ← readItems close item n s
        return (first :: others, rest)
      | none => return ([first], ← expect [close] s)

/-- Between brackets there may be nothing. -/
theorem readItems_close {close : Char} {s rest : List Char}
    (h : skipLayout s = some (close :: rest)) (item : List Char → Option (α × List Char))
    (n : Nat) : readItems close item (n + 1) s = some ([], rest) := by
  simp [readItems, h, expect]

/-- A key, a colon, and a value that is read as the key says. -/
def readEntry (key : List Char → Option (α × List Char))
    (value : α → List Char → Option (β × List Char)) (s : List Char) :
    Option (β × List Char) := do
  let (k, s) ← key s
  let s ← expect [':'] (← skipLayout s)
  value k (← skipLayout s)

/-- What follows the word `Some`: a value in parentheses or, where that is allowed, without. -/
def readPresent (context : Context) (value : List Char → Option (α × List Char)) (s : List Char) :
    Option (α × List Char) := do
  let s ← skipLayout s
  match expect ['('] s with
  | some s =>
    let (v, s) ← value (← skipLayout s)
    let s ← skipLayout s
    let s ← skipLayout ((expect [','] s).getD s)
    return (v, ← expect [')'] s)
  | none => if context.implicitSome then value s else none

end Ron

end Skein
