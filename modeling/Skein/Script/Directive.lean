import Skein.Condition
import Skein.Script.Fault
import Skein.Text.Blank
import Skein.Text.Integer
import Skein.Text.Split

/-!
# Directives

A line `[if hasItem rope && !fact tired]` guards the text below it by conditions. `unless` turns
every clause around, and so does a `!` in front of a single clause.

## Main definitions

* `Script.readClause` — the condition that one clause states
* `Script.readDirective` — the conditions that a directive states, one for each clause
-/

namespace Skein

namespace Script

open Text

/-- The condition that one clause states, in a directive whose clauses are positive or not. The
clause has no blanks around it. -/
def readClause (positive : Bool) (clause : List Char) : Except Fault Condition :=
  match cutWhere isBlank clause with
  | none => .error (.missingValue (String.ofList clause))
  | some (word, rest) =>
    let value := trim rest
    if value = [] then .error (.missingValue (String.ofList clause))
    else
      let negated := word.head? = some '!'
      let keyword := String.ofList (if negated then word.tail else word)
      match Condition.Kind.ofKeyword? keyword with
      | none => .error (.unknownCondition keyword)
      | some kind =>
        if kind = .hasMoney && (readInt? value).isNone then
          .error (.invalidThreshold (String.ofList value))
        else .ok ⟨positive ^^ negated, kind, String.ofList value⟩

/-- What stands between the brackets of a directive. -/
def directiveText (line : List Char) : List Char :=
  trim (dropEndWhile (· == ']') ((trim line).dropWhile (· == '[')))

/-- The conditions that a directive states, one for each clause. -/
def readDirective (line : List Char) : Except Fault (List Condition) := do
  let text := directiveText line
  let (word, rest) := (cutWhere isBlank text).getD (text, [])
  let positive ←
    if word = "if".toList then .ok true
    else if word = "unless".toList then .ok false
    else .error (.invalidDirective (String.ofList word))
  ((splitPair '&' '&' rest).map trim).mapM (readClause positive)

end Script

end Skein
