/-!
# Conditions

A condition asks about the player: whether an item is held, whether the money reaches a threshold,
whether a fact is known. It is positive or negative, and its value is kept as the text that the
author wrote, a threshold included, because a draft can come from places that do not check it.

## Main definitions

* `Condition` — a kind, a value and a polarity
* `Condition.Kind.keyword`, `Condition.Kind.ofKeyword?` — the word for a kind in a script
* `Condition.Kind.name`, `Condition.Kind.ofName?` — the word for a kind in a stored draft
* `Condition.negate` — the same question with the opposite polarity
-/

namespace Skein

/-- What a condition asks about. -/
inductive Condition.Kind where
  /-- Whether an item of the given name is held. -/
  | hasItem
  /-- Whether the money reaches the given threshold. -/
  | hasMoney
  /-- Whether the given fact is known. -/
  | fact
  deriving DecidableEq

/-- A question about the player, answered by yes if it is positive and by no otherwise. -/
structure Condition where
  /-- Whether the question has to be answered by yes. -/
  positive : Bool
  /-- What is asked about. -/
  kind : Condition.Kind
  /-- The item, the threshold or the fact, as written. -/
  value : String
  deriving DecidableEq

namespace Condition

namespace Kind

/-- The word for a kind in a script. -/
def keyword : Kind → String
  | hasItem => "hasItem"
  | hasMoney => "hasMoney"
  | fact => "fact"

/-- The kind that a word of a script stands for. -/
def ofKeyword? : String → Option Kind
  | "hasItem" => some hasItem
  | "hasMoney" => some hasMoney
  | "fact" => some fact
  | _ => none

/-- The name of a kind in a stored draft. -/
def name : Kind → String
  | hasItem => "HasItem"
  | hasMoney => "HasMoney"
  | fact => "Fact"

/-- The kind that a name in a stored draft stands for. -/
def ofName? : String → Option Kind
  | "HasItem" => some hasItem
  | "HasMoney" => some hasMoney
  | "Fact" => some fact
  | _ => none

@[simp] theorem ofKeyword?_keyword (kind : Kind) : ofKeyword? kind.keyword = some kind := by
  cases kind <;> rfl

@[simp] theorem ofName?_name (kind : Kind) : ofName? kind.name = some kind := by
  cases kind <;> rfl

end Kind

/-- The same question with the opposite polarity. -/
def negate (c : Condition) : Condition :=
  { c with positive := !c.positive }

@[simp] theorem negate_negate (c : Condition) : c.negate.negate = c := by
  simp [negate]

end Condition

end Skein
