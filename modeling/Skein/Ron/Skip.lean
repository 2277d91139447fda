import Skein.Ron.Bracket
import Skein.Ron.Number
import Skein.Ron.Quoted

/-!
# Passing over a value

A record may have fields that nobody knows. Their values are passed over, but they have to be
values: numbers, characters, texts, words, optional values, records, tuples, lists or maps, and no
deeper than a document may go.

## Main definitions

* `Ron.skipValue` — what follows a value of any form
* `Ron.startsEntry` — whether a group is a record, not a tuple
-/

namespace Skein

namespace Ron

/-- A reader that gives nothing but what follows. -/
def passing (skip : List Char → Option (List Char)) (s : List Char) :
    Option (Unit × List Char) :=
  (skip s).map ((), ·)

/-- The words that are values by themselves. -/
def valueWords : List (List Char) :=
  [['t', 'r', 'u', 'e'], ['f', 'a', 'l', 's', 'e'], ['N', 'o', 'n', 'e'], ['i', 'n', 'f'],
   ['N', 'a', 'N']]

/-- The word that a present optional value begins with. -/
def someWord : List Char :=
  ['S', 'o', 'm', 'e']

/-- Whether a text begins with the name of a field and its colon. -/
def startsEntry (s : List Char) : Bool :=
  match readName s with
  | none => false
  | some (_, s) => ((skipLayout s).bind List.head?) == some ':'

mutual

/-- **What follows the value of any form** at the beginning of a text. The number of levels is how
deep the value may go: it takes a level itself, and one more if it has brackets. -/
def skipValue (context : Context) : Nat → List Char → Option (List Char)
  | 0, _ => none
  | n + 1, s =>
    if let some rest := valueWords.findSome? (skipWord · s) then some rest
    else if let some rest := skipWord someWord s then
      (readPresent context (passing (skipValue context n)) rest).map Prod.snd
    else if let some rest := expect ['(', ')'] s then some rest
    else if let some (_, rest) := readName s then do
      let rest ← skipLayout rest
      match expect ['('] rest with
      | some rest => skipGroup context n rest
      | none => return rest
    else
      match s with
      | '(' :: s => skipGroup context n s
      | '[' :: s => skipList context n s
      | '\x7b' :: s => skipMap context n s
      | '"' :: _ => (readQuoted s).map Prod.snd
      | 'r' :: _ => (readQuoted s).map Prod.snd
      | '\'' :: _ => skipCharacter s
      | _ => skipNumber s

/-- What follows the record or tuple whose parenthesis was just opened. -/
def skipGroup (context : Context) : Nat → List Char → Option (List Char)
  | 0, _ => none
  | n + 1, s => do
    let value := passing (skipValue context n)
    let s ← skipLayout s
    let item := if startsEntry s then readEntry readName fun _ => value else value
    (readItems ')' item context.itemLimit s).map Prod.snd

/-- What follows the list whose bracket was just opened. -/
def skipList (context : Context) : Nat → List Char → Option (List Char)
  | 0, _ => none
  | n + 1, s =>
    (readItems ']' (passing (skipValue context n)) context.itemLimit s).map Prod.snd

/-- What follows the map whose brace was just opened. -/
def skipMap (context : Context) : Nat → List Char → Option (List Char)
  | 0, _ => none
  | n + 1, s =>
    let value := passing (skipValue context n)
    (readItems '\x7d' (readEntry value fun _ => value) context.itemLimit s).map Prod.snd

end

end Ron

end Skein
