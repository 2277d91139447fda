import Skein.Text.Integer

/-!
# The player

What the player owns and knows: a balance of money, items in the order in which they were
acquired, and a set of facts. Money never leaves the range of 64 bit integers and no change may
make it negative; a refused change leaves everything as it was. Facts are only ever added, and are
kept in ascending order so that equal sets are equal lists.

## Main definitions

* `Player` — money, items and facts
* `Inventory` — money and items, as announced to listeners
* `PlayError` — the causes for which a move in a story fails
* `Items.count`, `Items.add`, `Items.remove?` — the item list as a multiset with an order
* `Player.addMoney`, `Player.takeMoney` — changes of the balance
* `Player.addItem`, `Player.takeItem?` — items that are gained and given away

## Main results

* `Items.count_add` — adding changes one count by one
* `Items.isSome_remove?`, `Player.isSome_takeItem?` — what is held can be given away
* `mem_insertFact` — adding a fact adds that fact and no other
-/

namespace Skein

/-! ### Errors -/

/-- The causes for which a move in a story fails. -/
inductive PlayError where
  /-- The balance would become negative by the change. -/
  | negativeMoney (balance change : Int)
  /-- The balance would leave the range of 64 bit integers by the change. -/
  | moneyOverflow (balance change : Int)
  /-- A threshold in a condition is not an integer. -/
  | invalidThreshold (value : String)
  /-- An amount in an effect is not an integer. -/
  | invalidAmount (value : String)
  /-- No passage has the title. -/
  | passageNotFound (title : String)
  deriving DecidableEq

/-- The wording of an error. -/
def PlayError.message : PlayError → String
  | negativeMoney balance change =>
    "money would become negative: balance " ++ toString balance ++ ", change " ++ toString change
  | moneyOverflow balance change =>
    "money overflow: balance " ++ toString balance ++ ", change " ++ toString change
  | invalidThreshold value => "money threshold '" ++ value ++ "' is not an integer"
  | invalidAmount value => "money amount '" ++ value ++ "' is not an integer"
  | passageNotFound title => "passage not found: " ++ title

/-! ### Items

Items of one name are held together, at the place where the name was acquired; a name whose last
item is given away leaves the list. -/

/-- Some items of one name. -/
structure Item where
  /-- The name. -/
  name : String
  /-- How many are held. Programs keep the number in a word of 32 bits, so it is taken to stay below
  2 ^ 32. -/
  count : Nat
  deriving DecidableEq

namespace Items

/-- How many items of a name are held. -/
def count (items : List Item) (name : String) : Nat :=
  ((items.find? (·.name = name)).map Item.count).getD 0

/-- One more item of a name: at the place of the name, or at the end if the name is new. -/
def add (name : String) : List Item → List Item
  | [] => [⟨name, 1⟩]
  | item :: rest =>
    if item.name = name then { item with count := item.count + 1 } :: rest
    else item :: add name rest

/-- One item of a name less, if any is held. -/
def remove? (name : String) : List Item → Option (List Item)
  | [] => none
  | item :: rest =>
    if item.name = name then
      some (if 1 < item.count then { item with count := item.count - 1 } :: rest else rest)
    else (remove? name rest).map (item :: ·)

/-- Adding changes one count by one. -/
theorem count_add (items : List Item) (name other : String) :
    count (add name items) other = count items other + if other = name then 1 else 0 := by
  induction items with
  | nil => by_cases h : name = other <;> simp [add, count, h, eq_comm]
  | cons item rest ih =>
    by_cases hitem : item.name = name <;> by_cases hother : item.name = other <;>
      simp_all [add, count, eq_comm]

/-- An item can be removed exactly if one is listed. -/
theorem isSome_remove? (items : List Item) (name : String) :
    (remove? name items).isSome = items.any (·.name = name) := by
  induction items with
  | nil => rfl
  | cons item rest ih => by_cases h : item.name = name <;> simp_all [remove?]

end Items

/-! ### Facts -/

/-- A fact added to an ascending list of facts. -/
def insertFact (fact : String) : List String → List String
  | [] => [fact]
  | known :: rest =>
    if fact = known then known :: rest
    else if fact < known then fact :: known :: rest
    else known :: insertFact fact rest

/-- Adding a fact adds that fact and no other. -/
@[simp] theorem mem_insertFact {fact other : String} {facts : List String} :
    other ∈ insertFact fact facts ↔ other = fact ∨ other ∈ facts := by
  induction facts with
  | nil => simp [insertFact]
  | cons known rest ih =>
    unfold insertFact
    split
    · next h => simp [h]
    · split <;> simp [ih, or_left_comm]

/-! ### Players -/

/-- Money and items, as announced to listeners. -/
structure Inventory where
  /-- The balance. -/
  money : Int := 0
  /-- The items, in the order in which they were acquired. -/
  items : List Item := []
  deriving DecidableEq

/-- **What the player owns and knows.** -/
structure Player where
  /-- The balance. -/
  money : Int := 0
  /-- The items, in the order in which they were acquired. -/
  items : List Item := []
  /-- The known facts, in ascending order. -/
  facts : List String := []
  deriving DecidableEq

namespace Player

/-- What listeners are told of the player. -/
def inventory (p : Player) : Inventory :=
  ⟨p.money, p.items⟩

/-- Whether an item of the name is held. -/
def hasItem (p : Player) (name : String) : Bool :=
  p.items.any (·.name = name)

/-- Whether the fact is known. -/
def hasFact (p : Player) (fact : String) : Bool :=
  p.facts.contains fact

/-- The player with the amount added to the balance, unless that leaves the range of 64 bit integers
or makes the balance negative. -/
def addMoney (p : Player) (amount : Int) : Except PlayError Player :=
  let balance := p.money + amount
  if ¬Text.IsInt64 balance then .error (.moneyOverflow p.money amount)
  else if balance < 0 then .error (.negativeMoney p.money amount)
  else .ok { p with money := balance }

/-- The player with the amount taken from the balance; an amount without a negative of 64 bits is
refused like a balance that leaves the range. -/
def takeMoney (p : Player) (amount : Int) : Except PlayError Player :=
  if ¬Text.IsInt64 (-amount) then .error (.moneyOverflow p.money amount)
  else p.addMoney (-amount)

/-- The player with one more item of the name. -/
def addItem (p : Player) (name : String) : Player :=
  { p with items := Items.add name p.items }

/-- The player with one item of the name less, if any is held. -/
def takeItem? (p : Player) (name : String) : Option Player :=
  (Items.remove? name p.items).map fun items => { p with items := items }

/-- The player with one item of the name less; unchanged if none is held. -/
def takeItem (p : Player) (name : String) : Player :=
  (p.takeItem? name).getD p

/-- An item can be given away exactly if it is held. -/
theorem isSome_takeItem? (p : Player) (name : String) :
    (p.takeItem? name).isSome = p.hasItem name := by
  rw [takeItem?, Option.isSome_map, Items.isSome_remove?, hasItem]

/-- To give an item away changes the items alone. -/
theorem takeItem_eq (p : Player) (name : String) :
    p.takeItem name = { p with items := (Items.remove? name p.items).getD p.items } := by
  rw [takeItem, takeItem?]
  cases Items.remove? name p.items with
  | none => rfl
  | some rest => rfl

/-- The player who also knows the fact. -/
def addFact (p : Player) (fact : String) : Player :=
  { p with facts := insertFact fact p.facts }

end Player

end Skein
