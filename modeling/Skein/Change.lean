import Skein.Effect
import Skein.Player
import Skein.Text.Blank

/-!
# Changes of the player

An effect is text; the change it stands for is data. Only the amounts of money have to be read for
that. A change either succeeds or leaves the player as before, and says whether listeners are told:
they are told of money and items that changed hands, not of facts and not of an item that was to be
given away and was not held.

## Main definitions

* `Change` — a change of the player
* `Player.change` — the player after a change
* `Change.isAnnounced` — whether listeners are told of a successful change
* `Effect.change` — the change that an effect stands for
-/

namespace Skein

/-- A change of the player. -/
inductive Change where
  /-- One more item of the name. -/
  | addItem (name : String)
  /-- One item of the name less, if any is held. -/
  | takeItem (name : String)
  /-- One more fact. -/
  | addFact (fact : String)
  /-- Money earned. -/
  | addMoney (amount : Int)
  /-- Money spent. -/
  | takeMoney (amount : Int)
  deriving DecidableEq

/-- The player after a change. -/
def Player.change (p : Player) : Change → Except PlayError Player
  | .addItem name => .ok (p.addItem name)
  | .takeItem name => .ok (p.takeItem name)
  | .addFact fact => .ok (p.addFact fact)
  | .addMoney amount => p.addMoney amount
  | .takeMoney amount => p.takeMoney amount

/-- Whether listeners are told of the change when the given player makes it successfully. -/
def Change.isAnnounced (p : Player) : Change → Bool
  | .takeItem name => (p.takeItem? name).isSome
  | .addFact _ => false
  | .addItem _ | .addMoney _ | .takeMoney _ => true

/-- The amount of money that the value of an effect writes; blanks around it do not count. -/
def Effect.amount (e : Effect) : Except PlayError Int :=
  match Text.readInt? (Text.trim e.value.toList) with
  | some amount => .ok amount
  | none => .error (.invalidAmount e.value)

/-- The change that an effect stands for. -/
def Effect.change (e : Effect) : Except PlayError Change :=
  match e.kind with
  | .addItem => .ok (.addItem e.value)
  | .takeItem => .ok (.takeItem e.value)
  | .addFact => .ok (.addFact e.value)
  | .addMoney => e.amount.map .addMoney
  | .takeMoney => e.amount.map .takeMoney

end Skein
