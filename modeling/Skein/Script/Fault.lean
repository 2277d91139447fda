/-!
# Faults in a script

What can be wrong with the lines of a passage, and the report of a fault together with the passage
it was found in. The functions that read single lines know nothing of passages; the title is added
where a whole passage is read.

## Main definitions

* `Script.Fault` — the causes for which a passage is refused
* `Script.Error` — a fault and the title of the passage it is in
* `Script.Error.message` — the wording of the report
-/

namespace Skein

namespace Script

/-- The causes for which a passage is refused. -/
inductive Fault where
  /-- A line of the preamble begins with a word that names no effect. -/
  | unknownEffect (keyword : String)
  /-- A line of the preamble has no colon. -/
  | malformedEffect (line : String)
  /-- An amount of money is not an integer. -/
  | invalidAmount (keyword value : String)
  /-- A clause of a directive begins with a word that names no kind of condition. -/
  | unknownCondition (kind : String)
  /-- A directive begins with a word that is neither `if` nor `unless`. -/
  | invalidDirective (keyword : String)
  /-- A clause of a directive consists of a single word. -/
  | missingValue (clause : String)
  /-- A threshold of money is not an integer. -/
  | invalidThreshold (value : String)
  /-- An `[else]` stands outside of any guarded text. -/
  | elseWithoutIf
  /-- An `[else]` follows an `[else]`. -/
  | elseWithoutCondition
  /-- A `[continue]` stands outside of any guarded text. -/
  | continueWithoutIf
  deriving DecidableEq

/-- A fault and the title of the passage it is in. -/
structure Error where
  /-- The title of the passage. -/
  passage : String
  /-- What is wrong with it. -/
  fault : Fault
  deriving DecidableEq

/-- The wording of a fault. -/
def Fault.message : Fault → String
  | unknownEffect keyword => "unknown macro kind '" ++ keyword ++ "'"
  | malformedEffect line => "malformed macro line '" ++ line ++ "', expected '<kind>: <value>'"
  | invalidAmount keyword value => keyword ++ " amount '" ++ value ++ "' is not an integer"
  | unknownCondition kind => "unknown condition kind '" ++ kind ++ "'"
  | invalidDirective keyword => "expected 'if' or 'unless', found '" ++ keyword ++ "'"
  | missingValue clause => "condition '" ++ clause ++ "' has no value"
  | invalidThreshold value => "money threshold '" ++ value ++ "' is not an integer"
  | elseWithoutIf => "[else] outside of an [if] block"
  | elseWithoutCondition => "[else] has no condition to invert"
  | continueWithoutIf => "[continue] outside of an [if] block"

/-- The wording of the report, which begins with the passage. -/
def Error.message (e : Error) : String :=
  "passage '" ++ e.passage ++ "': " ++ e.fault.message

end Script

end Skein
