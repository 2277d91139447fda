import Mathlib.Algebra.Ring.Int.Defs
import Skein.Proofs.Notices

/-!
# Balances are exact

Money is kept in words of 64 bits, and a transfer is computed in steps that are each checked: an
amount that is spent is first turned around, then the amount is added, then the sign is looked at.
Nothing of this can be seen from outside. Because a balance is never negative, only sums that are
too large can leave the range, and so a transfer takes place exactly if the sum over the integers is
a balance again. What is left of the words of 64 bits is the wording of one refusal: the lowest of
the amounts has no negative among them, and is reported as it is.

Balances stay balances under every change there is, so they do during whole runs of operations, with
amounts from effects as well.

## Main definitions

* `IsBalance` — the amounts of money that can be owned
* `Transfer` — an amount of 64 bits that is earned or spent
* `Player.afterTransfers`, `Player.accepted` — the player after some transfers, and those of them
  that took place

## Main results

* `Player.transfer_eq` — what a transfer does
* `Player.money_afterTransfers` — the balance is the sum of the transfers that took place
* `Player.afterTransfers_exact` — both together, at any point of a sequence of transfers
* `Play.isBalance_after` — the balance never leaves its range, whatever is done
-/

namespace Skein

/-- The amounts of money that can be owned. -/
def IsBalance (n : Int) : Prop :=
  0 ≤ n ∧ n ≤ 2 ^ 63 - 1

instance (n : Int) : Decidable (IsBalance n) :=
  inferInstanceAs (Decidable (_ ∧ _))

/-- An amount of 64 bits that is earned or spent. -/
inductive Transfer where
  /-- The amount is added to the balance. -/
  | earn (amount : Int64)
  /-- The amount is taken from the balance. -/
  | spend (amount : Int64)

namespace Transfer

/-- The change of the player that a transfer asks for. -/
def change : Transfer → Change
  | earn amount => .addMoney amount.toInt
  | spend amount => .takeMoney amount.toInt

/-- What a transfer adds to the balance, as an integer. -/
def value : Transfer → Int
  | earn amount => amount.toInt
  | spend amount => -amount.toInt

/-- What a transfer adds to the balance, as words of 64 bits have it: the lowest amount is its own
negative. -/
def word : Transfer → Int64
  | earn amount => amount
  | spend amount => -amount

/-- The lowest amount cannot be turned around in 64 bits; all others can. -/
theorem toInt_word_spend (amount : Int64) :
    (spend amount).word.toInt =
      if Text.IsInt64 (-amount.toInt) then -amount.toInt else amount.toInt := by
  have hlow := amount.le_toInt
  have hhigh := amount.toInt_lt
  show (-amount).toInt = _
  rw [Int64.toInt_neg]
  by_cases hturns : Text.IsInt64 (-amount.toInt)
  · rw [if_pos hturns]
    exact Int.bmod_eq_of_le (by omega) (by have := hturns.2; omega)
  · have hlowest : amount.toInt = -2 ^ 63 :=
      Int.le_antisymm (Int.not_lt.1 fun h => hturns ⟨by omega, by omega⟩) hlow
    rw [if_neg hturns, hlowest]
    rfl

end Transfer

namespace Player

/-- The player after a transfer. -/
def transfer (p : Player) (t : Transfer) : Except PlayError Player :=
  p.change t.change

/-- Why a transfer is refused. -/
def refusal (p : Player) (t : Transfer) : PlayError :=
  if p.money + t.value < 0 then .negativeMoney p.money t.value
  else .moneyOverflow p.money t.word.toInt

/-- An amount is added to a balance exactly if the sum is a balance. Nothing can fall below the
range of 64 bits here, because a balance is not negative. -/
theorem addMoney_eq {p : Player} (hp : IsBalance p.money) {n : Int} (hn : -2 ^ 63 ≤ n) :
    p.addMoney n =
      if IsBalance (p.money + n) then .ok { p with money := p.money + n }
      else .error (if p.money + n < 0 then .negativeMoney p.money n
        else .moneyOverflow p.money n) := by
  have hfits : Text.IsInt64 (p.money + n) ↔ p.money + n < 2 ^ 63 :=
    ⟨fun h => h.2, fun h => ⟨by have := hp.1; omega, h⟩⟩
  rw [addMoney]
  by_cases hlarge : p.money + n < 2 ^ 63
  · rw [if_neg (not_not_intro (hfits.2 hlarge))]
    by_cases hneg : p.money + n < 0
    · rw [if_pos hneg, if_neg fun h => Int.not_le.2 hneg h.1, if_pos hneg]
    · rw [if_neg hneg, if_pos ⟨Int.not_lt.1 hneg, Int.le_sub_one_of_lt hlarge⟩]
  · rw [if_pos (mt hfits.1 hlarge), if_neg fun h => hlarge (Int.lt_of_le_sub_one h.2),
      if_neg (by omega)]

/-- **What a transfer does**: it takes place exactly if the sum over the integers is a balance. -/
theorem transfer_eq {p : Player} (hp : IsBalance p.money) (t : Transfer) :
    p.transfer t =
      if IsBalance (p.money + t.value) then .ok { p with money := p.money + t.value }
      else .error (p.refusal t) := by
  cases t with
  | earn amount => exact addMoney_eq hp amount.le_toInt
  | spend amount =>
    show p.takeMoney amount.toInt = _
    rw [takeMoney, refusal, Transfer.toInt_word_spend]
    by_cases hturns : Text.IsInt64 (-amount.toInt)
    · rw [if_neg (not_not_intro hturns), addMoney_eq hp hturns.1, if_pos hturns]
      rfl
    · -- The lowest amount is refused before the sum is looked at, and the sum would be too large.
      have hlow := amount.le_toInt
      have hlarge : 2 ^ 63 ≤ p.money + (Transfer.spend amount).value := by
        have hvalue : 2 ^ 63 ≤ -amount.toInt :=
          Int.not_lt.1 fun h => hturns ⟨by have := amount.toInt_lt; omega, h⟩
        have hnonneg := hp.1
        show 2 ^ 63 ≤ p.money + -amount.toInt
        omega
      rw [if_pos hturns, if_neg fun h => absurd h.2 (by omega), if_neg (by omega), if_neg hturns]

/-! ### Sequences of transfers -/

/-- The player after a transfer was tried; a refused transfer leaves everything as it was. -/
def attempt (p : Player) (t : Transfer) : Player :=
  (p.transfer t).toOption.getD p

/-- The player after some transfers were tried. -/
def afterTransfers (p : Player) (ts : List Transfer) : Player :=
  ts.foldl attempt p

/-- Those of some transfers that take place. -/
def accepted (p : Player) : List Transfer → List Transfer
  | [] => []
  | t :: rest =>
    match p.transfer t with
    | .ok q => t :: q.accepted rest
    | .error _ => p.accepted rest

theorem attempt_of_ok {p q : Player} {t : Transfer} (h : p.transfer t = .ok q) :
    p.attempt t = q := by
  rw [attempt, h]
  rfl

theorem attempt_of_error {p : Player} {t : Transfer} {e : PlayError} (h : p.transfer t = .error e) :
    p.attempt t = p := by
  rw [attempt, h]
  rfl

/-- A transfer that takes place sets the balance to the sum, and nothing else. -/
theorem of_transfer_eq_ok {p q : Player} (hp : IsBalance p.money) {t : Transfer}
    (h : p.transfer t = .ok q) :
    IsBalance (p.money + t.value) ∧ q = { p with money := p.money + t.value } := by
  rw [transfer_eq hp] at h
  split at h
  · next hbalance => exact ⟨hbalance, (Except.ok.inj h).symm⟩
  · cases h

theorem isBalance_attempt {p : Player} (hp : IsBalance p.money) (t : Transfer) :
    IsBalance (p.attempt t).money := by
  cases h : p.transfer t with
  | error e => rwa [attempt_of_error h]
  | ok q =>
    obtain ⟨hbalance, rfl⟩ := of_transfer_eq_ok hp h
    rwa [attempt_of_ok h]

theorem isBalance_afterTransfers {p : Player} (hp : IsBalance p.money) (ts : List Transfer) :
    IsBalance (p.afterTransfers ts).money := by
  induction ts generalizing p with
  | nil => exact hp
  | cons t ts ih => exact ih (isBalance_attempt hp t)

/-- **The balance is the sum of the transfers that took place.** -/
theorem money_afterTransfers {p : Player} (hp : IsBalance p.money) (ts : List Transfer) :
    (p.afterTransfers ts).money = p.money + ((p.accepted ts).map Transfer.value).sum := by
  induction ts generalizing p with
  | nil => exact (Int.add_zero _).symm
  | cons t ts ih =>
    show ((p.attempt t).afterTransfers ts).money = _
    rw [ih (isBalance_attempt hp t), accepted]
    cases h : p.transfer t with
    | error e => rw [attempt_of_error h]
    | ok q =>
      obtain ⟨-, rfl⟩ := of_transfer_eq_ok hp h
      rw [attempt_of_ok h, List.map_cons, List.sum_cons, Int.add_assoc]

/-- **Money is exact.** Let a player without money try some transfers, and then one more. It takes
place exactly if the sum over the integers is a balance, and then it sets the balance to that sum
and changes nothing else. If it is refused the player is as before, and the refusal says which end
of the range the sum is beyond. All the time the balance is the sum of the transfers that took
place, and it is never negative. -/
theorem afterTransfers_exact {p : Player} (hp : p.money = 0) (earlier : List Transfer)
    (t : Transfer) :
    ((∃ q, (p.afterTransfers earlier).transfer t = .ok q) ↔
      0 ≤ (p.afterTransfers earlier).money + t.value ∧
        (p.afterTransfers earlier).money + t.value ≤ 2 ^ 63 - 1) ∧
    (∀ q, (p.afterTransfers earlier).transfer t = .ok q →
      p.afterTransfers (earlier ++ [t]) = q ∧
      q = { p.afterTransfers earlier with
        money := (p.afterTransfers earlier).money + t.value }) ∧
    (∀ e, (p.afterTransfers earlier).transfer t = .error e →
      p.afterTransfers (earlier ++ [t]) = p.afterTransfers earlier ∧
      e = if (p.afterTransfers earlier).money + t.value < 0
        then .negativeMoney (p.afterTransfers earlier).money t.value
        else .moneyOverflow (p.afterTransfers earlier).money t.word.toInt) ∧
    (p.afterTransfers earlier).money = ((p.accepted earlier).map Transfer.value).sum ∧
    0 ≤ (p.afterTransfers earlier).money := by
  have hzero : IsBalance p.money := by
    rw [hp]
    decide
  have hbalance := isBalance_afterTransfers hzero earlier
  have hmoney := money_afterTransfers hzero earlier
  have hconcat : p.afterTransfers (earlier ++ [t]) = (p.afterTransfers earlier).attempt t := by
    rw [afterTransfers, List.foldl_append]
    rfl
  rw [hp, Int.zero_add] at hmoney
  rw [hconcat]
  refine ⟨⟨?_, ?_⟩, fun q h => ?_, fun e h => ?_, hmoney, hbalance.1⟩
  · rintro ⟨q, h⟩
    exact (of_transfer_eq_ok hbalance h).1
  · intro h
    exact ⟨_, (transfer_eq hbalance t).trans (if_pos h)⟩
  · exact ⟨attempt_of_ok h, (of_transfer_eq_ok hbalance h).2⟩
  · refine ⟨attempt_of_error h, ?_⟩
    rw [transfer_eq hbalance] at h
    split at h
    · cases h
    · exact (Except.error.inj h).symm

/-- Somebody with a purse, and nothing in it. -/
def purseOwner : Player where
  items := [⟨"purse", 1⟩]

/-- As much is earned as a purse can hold; one more is refused, and so is the lowest amount. -/
def trades : List Transfer :=
  [.spend 1, .earn Int64.maxValue, .earn 1, .spend 5, .spend Int64.minValue]

/-- **A purse that is nearly full**: to spend the lowest amount would be to earn more than the purse
can hold. -/
theorem afterTransfers_exact_purseOwner :
    purseOwner.money = 0 ∧
    (purseOwner.accepted trades).map Transfer.value = [9223372036854775807, -5] ∧
    (purseOwner.afterTransfers trades).money = 9223372036854775802 ∧
    (∃ q, (purseOwner.afterTransfers trades).transfer (.earn 5) = .ok q) ∧
    (purseOwner.afterTransfers trades).transfer (.spend Int64.minValue) =
      .error (.moneyOverflow 9223372036854775802 (-9223372036854775808)) ∧
    purseOwner.afterTransfers (trades ++ [.spend Int64.minValue]) =
      purseOwner.afterTransfers trades := by
  have haccepted :
      (purseOwner.accepted trades).map Transfer.value = [9223372036854775807, -5] := by
    decide +kernel
  obtain ⟨hearn, -, -, hmoney, -⟩ := afterTransfers_exact (p := purseOwner) rfl trades (.earn 5)
  obtain ⟨hspend, -, hrefused, -, -⟩ :=
    afterTransfers_exact (p := purseOwner) rfl trades (.spend Int64.minValue)
  rw [haccepted] at hmoney
  rw [hmoney] at hearn hspend hrefused
  refine ⟨rfl, haccepted, hmoney, hearn.2 (by decide), ?_⟩
  cases h : (purseOwner.afterTransfers trades).transfer (.spend Int64.minValue) with
  | ok q => exact absurd (hspend.1 ⟨q, h⟩) (by decide)
  | error e =>
    obtain ⟨hplayer, he⟩ := hrefused e h
    exact ⟨congrArg Except.error (he.trans (by decide)), hplayer⟩

/-! ### Every change, and every run -/

theorem isBalance_of_addMoney {p q : Player} {n : Int} (h : p.addMoney n = .ok q) :
    IsBalance q.money := by
  rw [addMoney] at h
  split at h
  · cases h
  · next hfits =>
    split at h
    · cases h
    · next hneg =>
      obtain rfl := Except.ok.inj h
      exact ⟨Int.not_lt.1 hneg, Int.le_sub_one_of_lt (Decidable.not_not.1 hfits).2⟩

/-- No change takes a balance out of its range. -/
theorem isBalance_of_change {p q : Player} (hp : IsBalance p.money) {c : Change}
    (h : p.change c = .ok q) : IsBalance q.money := by
  cases c with
  | addItem name =>
    obtain rfl := Except.ok.inj h
    exact hp
  | takeItem name =>
    obtain rfl := Except.ok.inj h
    rw [takeItem_eq]
    exact hp
  | addFact fact =>
    obtain rfl := Except.ok.inj h
    exact hp
  | addMoney amount => exact isBalance_of_addMoney h
  | takeMoney amount =>
    rw [change, takeMoney] at h
    split at h
    · cases h
    · exact isBalance_of_addMoney h

theorem isBalance_afterEvents {p : Player} (hp : IsBalance p.money)
    (changes : List (Except PlayError Change)) :
    IsBalance (p.afterEvents (p.events changes)).money := by
  refine afterEvents_induction (P := fun q => IsBalance q.money) ?_ hp
  intro c _ p q h hp
  exact isBalance_of_change hp h

end Player

namespace Play

variable {s : Story}

theorem isBalance_run {play : Play s} (hplay : IsBalance play.player.money) (op : Operation s) :
    IsBalance (op.run play).play.player.money := by
  rw [(op.run_replays play).player]
  exact Player.isBalance_afterEvents hplay _

/-- **The balance never leaves its range**, whatever is done and however much of it fails. -/
theorem isBalance_after {play : Play s} (hplay : IsBalance play.player.money)
    (ops : List (Operation s)) : IsBalance (play.after ops).player.money := by
  induction ops generalizing play with
  | nil => exact hplay
  | cons op ops ih => exact ih (isBalance_run hplay op)

end Play

end Skein
