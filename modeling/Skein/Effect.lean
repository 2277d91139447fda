/-!
# Effects

Visiting a passage has effects on the player: an item gained or lost, a fact learned, money earned
or spent. Like a condition, an effect keeps its value as written; amounts of money are read when
the effect takes place.

## Main definitions

* `Effect` — a kind and a value
* `Effect.Kind.keyword`, `Effect.Kind.ofKeyword?` — the word for a kind in a script
* `Effect.Kind.name`, `Effect.Kind.ofName?` — the word for a kind in a stored draft
* `Effect.Kind.takesAmount` — the kinds whose value is an amount of money
-/

namespace Skein

/-- What an effect does to the player. -/
inductive Effect.Kind where
  /-- One more item of the given name is held. -/
  | addItem
  /-- One item of the given name is given away, if any is held. -/
  | takeItem
  /-- The given fact is learned. -/
  | addFact
  /-- The given amount of money is earned. -/
  | addMoney
  /-- The given amount of money is spent. -/
  | takeMoney
  deriving DecidableEq

/-- Something that happens to the player when a passage is visited. -/
structure Effect where
  /-- What happens. -/
  kind : Effect.Kind
  /-- The item, the fact or the amount, as written. -/
  value : String
  deriving DecidableEq

namespace Effect.Kind

/-- The word for a kind in a script. -/
def keyword : Kind → String
  | addItem => "addItem"
  | takeItem => "takeItem"
  | addFact => "addFact"
  | addMoney => "addMoney"
  | takeMoney => "takeMoney"

/-- The kind that a word of a script stands for; facts may be added by either of two words. -/
def ofKeyword? : String → Option Kind
  | "addItem" => some addItem
  | "takeItem" => some takeItem
  | "addFact" => some addFact
  | "setFact" => some addFact
  | "addMoney" => some addMoney
  | "takeMoney" => some takeMoney
  | _ => none

/-- The kinds whose value is an amount of money. -/
def takesAmount : Kind → Bool
  | addMoney | takeMoney => true
  | addItem | takeItem | addFact => false

/-- The name of a kind in a stored draft. -/
def name : Kind → String
  | addItem => "AddItem"
  | takeItem => "TakeItem"
  | addFact => "AddFact"
  | addMoney => "AddMoney"
  | takeMoney => "TakeMoney"

/-- The kind that a name in a stored draft stands for. -/
def ofName? : String → Option Kind
  | "AddItem" => some addItem
  | "TakeItem" => some takeItem
  | "AddFact" => some addFact
  | "AddMoney" => some addMoney
  | "TakeMoney" => some takeMoney
  | _ => none

@[simp] theorem ofKeyword?_keyword (kind : Kind) : ofKeyword? kind.keyword = some kind := by
  cases kind <;> rfl

@[simp] theorem ofName?_name (kind : Kind) : ofName? kind.name = some kind := by
  cases kind <;> rfl

end Effect.Kind

end Skein
