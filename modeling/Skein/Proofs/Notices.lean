import Skein.Proofs.Operations

/-!
# What listeners hear

A listener is told the inventory whenever money or items changed hands, and it is told nothing else.
So that the whole of this can be said of operations that consist of several changes, the changes an
operation asks for are listed here apart from its outcome, and played through on the player alone:
each change that takes place is an event, and the first change that cannot be read or is refused
ends the list. What an operation announces is then read off its events, whether it succeeds or not,
and a listener who was there while nothing was owned always knows the inventory: it is the last it
was told of. Whether somebody listens makes no difference to anything else.

## Main definitions

* `Event` — a change that took place, with the player before and after it
* `Event.isMutation` — whether money or items changed hands
* `Operation.changes` — the changes that an operation asks for
* `Operation.events` — those of them that take place
* `Play.heard` — what a listener hears during a run
* `Play.unheard` — the same playthrough without listeners

## Main results

* `Operation.run_replays` — what an operation does to the player, and what it announces
* `Operation.run_unheard` — an operation does the same without listeners
* `Play.notices_mirror_inventory` — a listener mirrors the inventory all through a run
-/

namespace Skein

/-! ### Events -/

/-- A change that took place. -/
structure Event where
  /-- The player before the change. -/
  before : Player
  /-- The change. -/
  change : Change
  /-- The player after the change. -/
  after : Player
  deriving DecidableEq

/-- Whether money or items changed hands: a balance counts as changed by any amount, the items only
if they are others than before. -/
def Event.isMutation (e : Event) : Bool :=
  match e.change with
  | .addMoney _ | .takeMoney _ => true
  | .addItem _ | .takeItem _ => decide (e.after.items ≠ e.before.items)
  | .addFact _ => false

/-- The changes that take place if all of a list are asked for: those up to the first that cannot be
read or is refused. -/
def Player.events (p : Player) : List (Except PlayError Change) → List Event
  | [] => []
  | .error _ :: _ => []
  | .ok c :: rest =>
    match p.change c with
    | .error _ => []
    | .ok q => ⟨p, c, q⟩ :: q.events rest

theorem Player.events_of_error {p : Player} {c : Change} {e : PlayError} (h : p.change c = .error e)
    (rest : List (Except PlayError Change)) : p.events (.ok c :: rest) = [] := by
  rw [events, h]

theorem Player.events_of_ok {p q : Player} {c : Change} (h : p.change c = .ok q)
    (rest : List (Except PlayError Change)) :
    p.events (.ok c :: rest) = ⟨p, c, q⟩ :: q.events rest := by
  rw [events, h]

theorem Items.add_ne (name : String) (items : List Item) : add name items ≠ items := by
  intro h
  have hcount := count_add items name name
  rw [h, if_pos rfl] at hcount
  exact Nat.succ_ne_self _ hcount.symm

theorem Items.ne_of_remove? {name : String} {items rest : List Item}
    (h : remove? name items = some rest) : rest ≠ items := by
  induction items generalizing rest with
  | nil => cases h
  | cons item items ih =>
    rw [remove?] at h
    split at h
    · obtain rfl := Option.some.inj h
      split
      · next hcount =>
        intro heq
        have hitem := congrArg Item.count (List.cons.inj heq).1
        exact absurd hitem (by show item.count - 1 ≠ item.count; omega)
      · exact fun heq => absurd (congrArg List.length heq) (by simp)
    · obtain ⟨shorter, hshorter, rfl⟩ := Option.map_eq_some_iff.1 h
      exact fun heq => ih hshorter (List.cons.inj heq).2

/-- **Listeners are told of a change exactly if money or items changed hands.** -/
theorem Change.isAnnounced_eq_isMutation {p q : Player} {c : Change} (h : p.change c = .ok q) :
    c.isAnnounced p = Event.isMutation ⟨p, c, q⟩ := by
  cases c with
  | addFact fact => rfl
  | addMoney amount => rfl
  | takeMoney amount => rfl
  | addItem name =>
    obtain rfl := Except.ok.inj h
    exact (decide_eq_true (Items.add_ne name p.items)).symm
  | takeItem name =>
    obtain rfl := Except.ok.inj h
    rw [isAnnounced, Event.isMutation, Player.takeItem?, Player.takeItem_eq, Option.isSome_map]
    cases hremove : Items.remove? name p.items with
    | none => exact (decide_eq_false (not_not_intro rfl)).symm
    | some rest => exact (decide_eq_true (Items.ne_of_remove? hremove)).symm

theorem Event.inventory_after_of_not_isMutation {p q : Player} {c : Change} (h : p.change c = .ok q)
    (hsilent : Event.isMutation ⟨p, c, q⟩ = false) : q.inventory = p.inventory := by
  cases c with
  | addFact fact =>
    obtain rfl := Except.ok.inj h
    rfl
  | addMoney amount => cases hsilent
  | takeMoney amount => cases hsilent
  | addItem name =>
    obtain rfl := Except.ok.inj h
    rw [Player.inventory, Decidable.not_not.1 (of_decide_eq_false hsilent)]
    rfl
  | takeItem name =>
    obtain rfl := Except.ok.inj h
    rw [Player.inventory, Decidable.not_not.1 (of_decide_eq_false hsilent), Player.takeItem_eq]
    rfl

/-- The player after some events. -/
def Player.afterEvents (p : Player) (events : List Event) : Player :=
  (events.getLast?.map Event.after).getD p

theorem Player.afterEvents_cons (p : Player) (e : Event) (events : List Event) :
    p.afterEvents (e :: events) = e.after.afterEvents events := by
  rw [afterEvents, afterEvents, List.getLast?_cons]
  cases events.getLast? with
  | none => rfl
  | some last => rfl

/-- **An invariant of the changes that are asked for** holds after the events if it holds before. -/
theorem Player.afterEvents_induction {P : Player → Prop} {changes : List (Except PlayError Change)}
    (hstep : ∀ c, .ok c ∈ changes → ∀ p q : Player, p.change c = .ok q → P p → P q) {p : Player}
    (hp : P p) : P (p.afterEvents (p.events changes)) := by
  induction changes generalizing p with
  | nil => exact hp
  | cons change rest ih =>
    rcases change with e | c
    · exact hp
    cases h : p.change c with
    | error e => rwa [events_of_error h]
    | ok q =>
      rw [events_of_ok h, afterEvents_cons]
      have hq := hstep c List.mem_cons_self p q h hp
      exact ih (fun c hc => hstep c (List.mem_cons_of_mem _ hc)) hq

/-- The inventory after some events is the one that the last mutation among them left. -/
theorem Player.inventory_afterEvents (p : Player) (changes : List (Except PlayError Change)) :
    (p.afterEvents (p.events changes)).inventory =
      (((p.events changes).filter Event.isMutation).map (·.after.inventory)).getLast?.getD
        p.inventory := by
  induction changes generalizing p with
  | nil => rfl
  | cons change rest ih =>
    rcases change with e | c
    · rfl
    cases h : p.change c with
    | error e =>
      rw [events_of_error h]
      rfl
    | ok q =>
      rw [events_of_ok h, afterEvents_cons, ih q]
      cases hmutation : Event.isMutation ⟨p, c, q⟩ with
      | true =>
        rw [List.filter_cons_of_pos hmutation, List.map_cons, List.getLast?_cons]
        rfl
      | false =>
        rw [List.filter_cons_of_neg (by rw [hmutation]; exact Bool.false_ne_true),
          Event.inventory_after_of_not_isMutation h hmutation]

variable {s : Story} {α β : Type}

/-! ### What operations ask for -/

/-- The changes that the effects of a passage ask for, in order. -/
def Story.changesIn (s : Story) (p : s.PassageId) : List (Except PlayError Change) :=
  (s.passage p).effects.map Effect.change

/-- The link that is taken if a dialog is confirmed. -/
def Dialog.selected? (d : Dialog s) (play : Play s) : Option s.LinkId :=
  (play.offered d.passage).toOption.bind (·[d.cursor]?)

namespace Operation

/-- The changes that an operation asks for, in order. Only operations that enter a passage and those
that concern the player ask for any. -/
def changes (op : Operation s) (play : Play s) : List (Except PlayError Change) :=
  match op with
  | visit p => s.changesIn p
  | follow l => s.changesIn (s.link l).target
  | change c => [.ok c]
  | perform e => [e.change]
  | begin => (play.start.map s.changesIn).getD []
  | confirm d => ((d.selected? play).map fun l => s.changesIn (s.link l).target).getD []
  | _ => []

/-- The changes that take place during an operation, in order. -/
def events (op : Operation s) (play : Play s) : List Event :=
  play.player.events (op.changes play)

/-- Whether an operation adds a listener. -/
def isListen : Operation s → Bool
  | listen => true
  | _ => false

end Operation

/-! ### What operations do and announce -/

/-- The outcome does to the player what the changes do, and announces the inventory after each of
them by which money or items changed hands. -/
structure Outcome.Replays (o : Outcome s α) (play : Play s)
    (changes : List (Except PlayError Change)) : Prop where
  player : o.play.player = play.player.afterEvents (play.player.events changes)
  notices : play.listeners ≠ 0 → o.notices =
    ((play.player.events changes).filter Event.isMutation).map (·.after.inventory)
  /-- Nobody stops listening. -/
  listeners : play.listeners ≤ o.play.listeners

namespace Outcome

variable {o : Outcome s α} {play : Play s} {changes : List (Except PlayError Change)}

theorem Replays.map (h : o.Replays play changes) (f : α → β) : (o.map f).Replays play changes :=
  ⟨h.player, h.notices, h.listeners⟩

/-- An outcome that leaves the player alone and announces nothing replays no changes. -/
theorem Replays.nil (hplayer : o.play.player = play.player) (hnotices : o.notices = [])
    (hlisteners : play.listeners ≤ o.play.listeners) : o.Replays play [] :=
  ⟨hplayer, fun _ => hnotices, hlisteners⟩

/-- Nothing changes if nothing follows. -/
theorem andThen_done (o : Outcome s Unit) : (o.andThen fun _ play => ⟨.ok (), play, []⟩) = o := by
  obtain ⟨result, play, notices⟩ := o
  cases result with
  | error e => rfl
  | ok done =>
    show (⟨.ok (), play, notices ++ []⟩ : Outcome s Unit) = _
    rw [List.append_nil]

/-- The last that is announced, if anything is, is the inventory after the operation. -/
theorem Replays.getLast?_notices (h : o.Replays play changes) (hlisteners : play.listeners ≠ 0) :
    o.notices.getLast?.getD play.player.inventory = o.play.player.inventory := by
  rw [h.notices hlisteners, h.player, Player.inventory_afterEvents]

end Outcome

namespace Play

variable {play : Play s}

theorem change_of_error {c : Change} {e : PlayError} (h : play.player.change c = .error e) :
    play.change c = ⟨.error e, play, []⟩ := by
  rw [change, h]

/-- A change that takes place is announced as the event that it is. -/
theorem change_of_ok {c : Change} {q : Player} (h : play.player.change c = .ok q) :
    play.change c = ⟨.ok (), { play with player := q },
      if Event.isMutation ⟨play.player, c, q⟩ then play.announce q.inventory else []⟩ := by
  rw [change, h, ← Change.isAnnounced_eq_isMutation h]

theorem announce_event (hlisteners : play.listeners ≠ 0) (e : Event) :
    (if e.isMutation then play.announce e.after.inventory else []) =
      ([e].filter Event.isMutation).map (·.after.inventory) := by
  rw [announce, if_neg hlisteners]
  cases h : e.isMutation with
  | true =>
    rw [List.filter_cons_of_pos h]
    rfl
  | false =>
    rw [List.filter_cons_of_neg (by rw [h]; exact Bool.false_ne_true)]
    rfl

/-- A change, and whatever follows if it takes place. -/
theorem change_andThen_replays {next : Unit → Play s → Outcome s α}
    {rest : List (Except PlayError Change)} (hnext : ∀ play, (next () play).Replays play rest)
    (c : Change) (play : Play s) :
    ((play.change c).andThen next).Replays play (.ok c :: rest) := by
  cases h : play.player.change c with
  | error e =>
    rw [change_of_error h]
    refine ⟨?_, fun _ => ?_, Nat.le_refl _⟩
    · rw [Player.events_of_error h]
      rfl
    · rw [Player.events_of_error h]
      rfl
  | ok q =>
    have hrest := hnext { play with player := q }
    rw [change_of_ok h]
    refine ⟨?_, fun hlisteners => ?_, hrest.listeners⟩
    · rw [Player.events_of_ok h, Player.afterEvents_cons]
      exact hrest.player
    · rw [Player.events_of_ok h, ← List.singleton_append, List.filter_append, List.map_append,
        ← announce_event hlisteners, ← hrest.notices hlisteners]
      rfl

theorem change_replays (c : Change) (play : Play s) : (play.change c).Replays play [.ok c] := by
  rw [← Outcome.andThen_done (play.change c)]
  exact change_andThen_replays (fun _ => .nil rfl rfl (Nat.le_refl _)) c play

theorem perform_replays (e : Effect) (play : Play s) :
    (play.perform e).Replays play [e.change] := by
  rw [perform]
  cases e.change with
  | error err => exact ⟨rfl, fun _ => rfl, Nat.le_refl _⟩
  | ok c => exact change_replays c play

/-- **Effects one after the other** do what their changes do, up to the first that fails. -/
theorem performAll_replays (effects : List Effect) (play : Play s) :
    (performAll effects play).Replays play (effects.map Effect.change) := by
  induction effects generalizing play with
  | nil => exact .nil rfl rfl (Nat.le_refl _)
  | cons e rest ih =>
    rw [performAll, perform, List.map_cons]
    cases e.change with
    | error err => exact ⟨rfl, fun _ => rfl, Nat.le_refl _⟩
    | ok c => exact change_andThen_replays ih c play

theorem visit_replays (p : s.PassageId) (play : Play s) :
    (play.visit p).Replays play (s.changesIn p) :=
  have h := performAll_replays (s.passage p).effects (play.markVisited p)
  ⟨h.player, h.notices, h.listeners⟩

theorem follow_replays (l : s.LinkId) (play : Play s) :
    (play.follow l).Replays play (s.changesIn (s.link l).target) := by
  have h := visit_replays (s.link l).target (play.markTaken l)
  have hvisit : ((play.markTaken l).visit (s.link l).target).Replays play
      (s.changesIn (s.link l).target) := ⟨h.player, h.notices, h.listeners⟩
  exact hvisit.map _

end Play

theorem Dialog.begin_replays (play : Play s) :
    (Dialog.begin play).Replays play ((play.start.map s.changesIn).getD []) := by
  rw [Dialog.begin]
  cases play.start with
  | none => exact .nil rfl rfl (Nat.le_refl _)
  | some p => exact (Play.visit_replays p play).map _

theorem Dialog.confirm_replays (d : Dialog s) (play : Play s) :
    (d.confirm play).1.Replays play
      (((d.selected? play).map fun l => s.changesIn (s.link l).target).getD []) := by
  rw [Dialog.confirm, Dialog.selected?]
  cases play.offered d.passage with
  | error e => exact .nil rfl rfl (Nat.le_refl _)
  | ok links =>
    simp only [Except.toOption, Option.bind_some]
    cases links[d.cursor]? with
    | none => exact .nil rfl rfl (Nat.le_refl _)
    | some l => exact (Play.follow_replays l play).map _

/-- **What an operation does to the player, and what it announces.** -/
theorem Operation.run_replays (op : Operation s) (play : Play s) :
    (op.run play).Replays play (op.changes play) := by
  cases op with
  | visit p => exact (play.visit_replays p).map _
  | follow l => exact (play.follow_replays l).map _
  | change c => exact (play.change_replays c).map _
  | perform e => exact (play.perform_replays e).map _
  | begin => exact (Dialog.begin_replays play).map _
  | confirm d => exact (d.confirm_replays play).map _
  | setStart title =>
    rw [run, Play.setStart]
    cases s.find title with
    | error e => exact .nil rfl rfl (Nat.le_refl _)
    | ok p => exact .nil rfl rfl (Nat.le_refl _)
  | listen => exact .nil rfl rfl (Nat.le_succ _)
  | _ => exact .nil rfl rfl (Nat.le_refl _)

/-! ### Without listeners -/

/-- The same playthrough without listeners. -/
def Play.unheard (play : Play s) : Play s :=
  { play with listeners := 0 }

/-- The same outcome where nobody listens. -/
def Outcome.unheard (o : Outcome s α) : Outcome s α :=
  ⟨o.result, o.play.unheard, []⟩

theorem Outcome.andThen_unheard {first : Outcome s α} {next : α → Play s → Outcome s β}
    (h : ∀ a play, next a play.unheard = (next a play).unheard) :
    first.unheard.andThen next = (first.andThen next).unheard := by
  obtain ⟨result, play, notices⟩ := first
  cases result with
  | error e => rfl
  | ok a =>
    have hnext := h a play
    show (⟨(next a play.unheard).result, (next a play.unheard).play,
      [] ++ (next a play.unheard).notices⟩ : Outcome s β) = _
    rw [hnext]
    rfl

namespace Play

theorem announce_unheard (play : Play s) (inventory : Inventory) :
    play.unheard.announce inventory = [] := rfl

theorem change_unheard (c : Change) (play : Play s) :
    play.unheard.change c = (play.change c).unheard := by
  cases h : play.player.change c with
  | error e =>
    have hunheard : play.unheard.player.change c = .error e := h
    rw [change_of_error h, change_of_error hunheard]
    rfl
  | ok q =>
    have hunheard : play.unheard.player.change c = .ok q := h
    rw [change_of_ok h, change_of_ok hunheard, announce_unheard, ite_self]
    rfl

theorem perform_unheard (e : Effect) (play : Play s) :
    play.unheard.perform e = (play.perform e).unheard := by
  rw [perform, perform]
  cases e.change with
  | error err => rfl
  | ok c => exact change_unheard c play

theorem performAll_unheard (effects : List Effect) (play : Play s) :
    performAll effects play.unheard = (performAll effects play).unheard := by
  induction effects generalizing play with
  | nil => rfl
  | cons e rest ih =>
    rw [performAll, performAll, perform_unheard]
    exact Outcome.andThen_unheard fun _ next => ih next

theorem visit_unheard (p : s.PassageId) (play : Play s) :
    play.unheard.visit p = (play.visit p).unheard :=
  performAll_unheard (s.passage p).effects (play.markVisited p)

theorem follow_unheard (l : s.LinkId) (play : Play s) :
    play.unheard.follow l = (play.follow l).unheard := by
  have hvisit := visit_unheard (s.link l).target (play.markTaken l)
  show ((play.markTaken l).unheard.visit (s.link l).target).map _ = _
  rw [hvisit]
  rfl

end Play

theorem Dialog.begin_unheard (play : Play s) :
    Dialog.begin play.unheard = (Dialog.begin play).unheard := by
  have hstart : play.unheard.start = play.start := rfl
  rw [Dialog.begin, Dialog.begin, hstart]
  cases play.start with
  | none => rfl
  | some p =>
    show (play.unheard.visit p).map _ = _
    rw [Play.visit_unheard]
    rfl

/-- The dialog is the same after a confirmation, too. -/
theorem Dialog.confirm_unheard (d : Dialog s) (play : Play s) :
    d.confirm play.unheard = ((d.confirm play).1.unheard, (d.confirm play).2) := by
  have hoffered : play.unheard.offered d.passage = play.offered d.passage := rfl
  rw [confirm, confirm, hoffered]
  cases play.offered d.passage with
  | error e => rfl
  | ok links =>
    cases hl : links[d.cursor]? with
    | none => simp only [hl]; rfl
    | some l =>
      simp only [hl]
      rw [Play.follow_unheard]
      rfl

/-- **An operation does the same without listeners**, and nothing is heard then. -/
theorem Operation.run_unheard {op : Operation s} (h : op.isListen = false) (play : Play s) :
    op.run play.unheard = (op.run play).unheard := by
  cases op with
  | listen => cases h
  | visit p => exact congrArg (Outcome.map _) (play.visit_unheard p)
  | follow l => exact congrArg (Outcome.map _) (play.follow_unheard l)
  | change c => exact congrArg (Outcome.map _) (play.change_unheard c)
  | perform e => exact congrArg (Outcome.map _) (play.perform_unheard e)
  | begin => exact congrArg (Outcome.map _) (Dialog.begin_unheard play)
  | confirm d =>
    rw [run, run, Dialog.confirm_unheard]
    rfl
  | setStart title =>
    rw [run, run, Play.setStart, Play.setStart]
    cases s.find title with
    | error e => rfl
    | ok p => rfl
  | _ => rfl

/-! ### Runs -/

namespace Play

/-- What a listener hears during a run, in order. -/
def heard : List (Operation s) → Play s → List Inventory
  | [], _ => []
  | op :: ops, play => (op.run play).notices ++ heard ops (op.run play).play

theorem after_cons (op : Operation s) (ops : List (Operation s)) (play : Play s) :
    play.after (op :: ops) = (op.run play).play.after ops := rfl

theorem listeners_le_after (ops : List (Operation s)) (play : Play s) :
    play.listeners ≤ (play.after ops).listeners := by
  induction ops generalizing play with
  | nil => exact Nat.le_refl _
  | cons op ops ih => exact Nat.le_trans (op.run_replays play).listeners (ih _)

/-- A listener who knows the inventory when a run begins knows it when the run ends. -/
theorem getLast?_heard {play : Play s} (hlisteners : play.listeners ≠ 0)
    (ops : List (Operation s)) :
    (heard ops play).getLast?.getD play.player.inventory = (play.after ops).player.inventory := by
  induction ops generalizing play with
  | nil => rfl
  | cons op ops ih =>
    have hop := op.run_replays play
    have hlater : (op.run play).play.listeners ≠ 0 := fun h =>
      hlisteners (Nat.le_zero.1 (h ▸ hop.listeners))
    rw [heard, after_cons, ← ih hlater, ← hop.getLast?_notices hlisteners, List.getLast?_append]
    cases (heard ops (op.run play).play).getLast? with
    | none => rfl
    | some inventory => rfl

/-- **A run does the same without listeners.** -/
theorem after_unheard (ops : List (Operation s)) (play : Play s) :
    play.unheard.after (ops.filter fun op => !op.isListen) = (play.after ops).unheard := by
  induction ops generalizing play with
  | nil => rfl
  | cons op ops ih =>
    rw [after_cons, ← ih]
    cases hlisten : op.isListen with
    | true =>
      have hplay : (op.run play).play.unheard = play.unheard := by
        cases op with
        | listen => rfl
        | _ => cases hlisten
      rw [List.filter_cons_of_neg (by rw [hlisten]; exact Bool.false_ne_true), hplay]
    | false =>
      rw [List.filter_cons_of_pos (by rw [hlisten]; rfl), after_cons,
        Operation.run_unheard hlisten]
      rfl

/-- **A listener mirrors the inventory all through a run.** Let somebody listen while nothing is
owned, and let any operations follow. Then the next operation announces, in order, the inventory
after each of its events by which money or items changed hands, and nothing else; these events are
what turns the player before it into the player after it, even if it fails. After the operations the
inventory is the one that was announced last. And without listeners the same run has the same
playthroughs and the same results. -/
theorem notices_mirror_inventory {play : Play s} (hlisteners : play.listeners ≠ 0)
    (hempty : play.player.inventory = {}) (ops : List (Operation s)) (op : Operation s) :
    (op.run (play.after ops)).notices =
      ((op.events (play.after ops)).filter Event.isMutation).map (·.after.inventory) ∧
    (op.run (play.after ops)).play.player =
      (play.after ops).player.afterEvents (op.events (play.after ops)) ∧
    (heard ops play).getLast?.getD {} = (play.after ops).player.inventory ∧
    play.unheard.after (ops.filter fun op => !op.isListen) = (play.after ops).unheard ∧
    (op.run (play.after ops).unheard).result = (op.run (play.after ops)).result := by
  have hlater : (play.after ops).listeners ≠ 0 := fun h =>
    hlisteners (Nat.le_zero.1 (h ▸ listeners_le_after ops play))
  have hop := op.run_replays (play.after ops)
  refine ⟨hop.notices hlater, hop.player, ?_, after_unheard ops play, ?_⟩
  · rw [← getLast?_heard hlisteners ops, hempty]
  · cases hlisten : op.isListen with
    | true =>
      cases op with
      | listen => rfl
      | _ => cases hlisten
    | false =>
      rw [Operation.run_unheard hlisten]
      rfl

end Play

/-! ### A fair -/

/-- A fair, at whose stall a lamp is sold to whoever has the money, after a gift of a coin and
before a fee that few can pay. -/
def fair : Story where
  title := ""
  passages := [
    ⟨"Gate", "", [], [], false⟩,
    ⟨"Stall", "", [], [⟨.addItem, "coin"⟩, ⟨.takeMoney, "5"⟩, ⟨.addItem, "lamp"⟩,
      ⟨.takeItem, "key"⟩, ⟨.addFact, "sold"⟩, ⟨.takeMoney, "50"⟩, ⟨.takeItem, "coin"⟩], false⟩]
  links := [⟨0, 1, "Buy", [], []⟩]
  titles_nodup := by decide

namespace fair

/-- Somebody listens, and nothing has happened yet. -/
def opened : Play fair := { listeners := 1 }

/-- The link to the stall. -/
def buy : fair.LinkId := ⟨0, by decide⟩

/-- What is done before the purchase: some money is earned, and a lamp that is not held is given
away. -/
def earn : List (Operation fair) := [.change (.addMoney 20), .change (.takeItem "lamp")]

/-- **A purchase is announced step by step**, up to the fee that is refused; neither the key that is
not held nor the fact is announced. -/
theorem notices_mirror_inventory_buy :
    opened.listeners ≠ 0 ∧ opened.player.inventory = {} ∧
    ((Operation.follow buy).run (opened.after earn)).notices =
      [⟨20, [⟨"coin", 1⟩]⟩, ⟨15, [⟨"coin", 1⟩]⟩, ⟨15, [⟨"coin", 1⟩, ⟨"lamp", 1⟩]⟩] ∧
    ((Operation.follow buy).run (opened.after earn)).play.player =
      ⟨15, [⟨"coin", 1⟩, ⟨"lamp", 1⟩], ["sold"]⟩ ∧
    (Play.heard earn opened).getLast?.getD {} = ⟨20, []⟩ ∧
    opened.unheard.after (earn.filter fun op => !op.isListen) = (opened.after earn).unheard ∧
    ((Operation.follow buy).run (opened.after earn).unheard).result =
      ((Operation.follow buy).run (opened.after earn)).result := by
  have hlisteners : opened.listeners ≠ 0 := by decide
  obtain ⟨hnotices, hplayer, hlast, hunheard, hresult⟩ :=
    Play.notices_mirror_inventory hlisteners rfl earn (.follow buy)
  exact ⟨hlisteners, rfl, hnotices.trans (by decide +kernel), hplayer.trans (by decide +kernel),
    hlast.trans (by decide +kernel), hunheard, hresult⟩

end fair

end Skein
