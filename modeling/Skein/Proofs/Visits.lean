import Mathlib.Control.Monad.Basic
import Skein.Proofs.Deeds
import Skein.Proofs.Success

/-!
# Visits that end early

A visit marks its passage and lets the effects of the passage take place one after the other; the
first effect that fails ends it. What is left behind then is neither the playthrough before the
visit nor the one that was meant, so it has to be said exactly. Here the effects are folded over the
player alone, which knows nothing of marks and listeners, and the visit is compared with the fold: a
visit that fails leaves the mark, the player to whom the fold leads in front of the failing effect,
and the announcements of the effects up to there, and it fails as that effect does.

A single effect is all or nothing, and so is the place of a dialog: a confirmation that fails leaves
the dialog where it was, although the link is marked and its target was visited.

## Main definitions

* `Player.perform`, `Player.performAll` — the player after an effect, and after several
* `Player.StopsAfter` — how far some effects get if one of them fails
* `Play.announcements` — what is heard of effects that take place

## Main results

* `Play.performAll_append` — effects that take place, and whatever follows them
* `Play.visit_of_ok`, `Play.visit_of_stopsAfter` — the outcome of a visit, told by the fold
* `Dialog.confirm_of_stopsAfter` — the outcome of a confirmation whose visit ends early
* `Play.visit_exact` — all of this together
-/

namespace Skein

/-! ### Effects on the player alone -/

namespace Player

/-- The player after an effect. -/
def perform (p : Player) (e : Effect) : Except PlayError Player :=
  e.change >>= p.change

/-- **The player after some effects**, folded over it from left to right; the first that fails ends
the fold. -/
def performAll (p : Player) (effects : List Effect) : Except PlayError Player :=
  effects.foldlM perform p

/-- The effects end early: those of `before` take place and leave the player `q`, and the next one
fails. -/
structure StopsAfter (p : Player) (effects before : List Effect) (q : Player) (err : PlayError) :
    Prop where
  /-- The effects before the failing one take place. -/
  performed : p.performAll before = .ok q
  /-- The next effect fails. -/
  failing : ∃ e after, effects = before ++ e :: after ∧ q.perform e = .error err

theorem performAll_cons_eq_ok {p r : Player} {e : Effect} {rest : List Effect} :
    p.performAll (e :: rest) = .ok r ↔ ∃ q, p.perform e = .ok q ∧ q.performAll rest = .ok r := by
  rw [performAll, List.foldlM_cons, bind_eq_ok]
  rfl

/-- **Effects fail exactly if they end early.** -/
theorem performAll_eq_error_iff {p : Player} {effects : List Effect} {err : PlayError} :
    p.performAll effects = .error err ↔ ∃ before q, p.StopsAfter effects before q err := by
  rw [performAll, foldlM_eq_error_iff]
  constructor
  · rintro ⟨before, e, after, q, heffects, hbefore, he⟩
    exact ⟨before, q, hbefore, e, after, heffects, he⟩
  · rintro ⟨before, q, hbefore, e, after, heffects, he⟩
    exact ⟨before, e, after, q, heffects, hbefore, he⟩

end Player

namespace Outcome

variable {s : Story} {α β : Type}

/-- The same outcome, with something that was heard before. -/
def precededBy (heard : List Inventory) (o : Outcome s α) : Outcome s α :=
  ⟨o.result, o.play, heard ++ o.notices⟩

theorem precededBy_precededBy (first second : List Inventory) (o : Outcome s α) :
    (o.precededBy second).precededBy first = o.precededBy (first ++ second) := by
  simp [precededBy]

theorem andThen_ok (a : α) (play : Play s) (heard : List Inventory)
    (next : α → Play s → Outcome s β) :
    (⟨.ok a, play, heard⟩ : Outcome s α).andThen next = (next a play).precededBy heard := rfl

end Outcome

namespace Play

variable {s : Story} {play : Play s}

/-! ### One effect -/

/-- What is heard of some effects if they take place one after the other. -/
def announcements (play : Play s) (effects : List Effect) : List Inventory :=
  ((play.player.events (effects.map Effect.change)).filter Event.isMutation).flatMap
    fun e => play.announce e.after.inventory

theorem announcements_cons {e : Effect} {q : Player} (h : play.player.perform e = .ok q)
    (rest : List Effect) :
    play.announcements (e :: rest) =
      play.announcements [e] ++ { play with player := q }.announcements rest := by
  obtain ⟨c, hc, hq⟩ := bind_eq_ok.1 h
  simp only [announcements, List.map_cons, List.map_nil, hc, Player.events_of_ok hq, Player.events]
  rw [← List.singleton_append, List.filter_append, List.flatMap_append]
  rfl

/-- An effect that takes place changes the player, and is heard of if money or items changed
hands. -/
theorem perform_of_ok {e : Effect} {q : Player} (h : play.player.perform e = .ok q) :
    play.perform e = ⟨.ok (), { play with player := q }, play.announcements [e]⟩ := by
  obtain ⟨c, hc, hq⟩ := bind_eq_ok.1 h
  simp only [perform, announcements, List.map_cons, List.map_nil, hc, change_of_ok hq,
    Player.events_of_ok hq, Player.events]
  cases hmutation : Event.isMutation ⟨play.player, c, q⟩ with
  | true => simp [hmutation]
  | false => simp [hmutation]

/-- **An effect that fails changes nothing, and nothing is heard of it.** -/
theorem perform_of_error {e : Effect} {err : PlayError} (h : play.player.perform e = .error err) :
    play.perform e = ⟨.error err, play, []⟩ := by
  rw [perform]
  cases hc : e.change with
  | error err' =>
    rw [Player.perform, hc] at h
    rw [Except.error.inj h]
  | ok c =>
    rw [Player.perform, hc] at h
    exact change_of_error h

/-- An effect fails on a playthrough as it does on the player. -/
theorem result_perform_eq_error_iff {e : Effect} {err : PlayError} :
    (play.perform e).result = .error err ↔ play.player.perform e = .error err := by
  constructor
  · intro h
    rcases exists_eq_ok_or_exists_eq_error (play.player.perform e) with ⟨q, hq⟩ | ⟨err', herr⟩
    · rw [perform_of_ok hq] at h
      cases h
    · rw [perform_of_error herr] at h
      rw [herr, Except.error.inj h]
  · intro h
    rw [perform_of_error h]

/-! ### Several effects -/

/-- **Effects that take place, and whatever follows them.** -/
theorem performAll_append {before : List Effect} {q : Player}
    (h : play.player.performAll before = .ok q) (rest : List Effect) :
    performAll (before ++ rest) play =
      (performAll rest { play with player := q }).precededBy (play.announcements before) := by
  induction before generalizing play with
  | nil =>
    obtain rfl : play.player = q := Except.ok.inj h
    rfl
  | cons e before ih =>
    obtain ⟨p, hp, hq⟩ := Player.performAll_cons_eq_ok.1 h
    have hrest := @ih { play with player := p } hq
    rw [List.cons_append, performAll, perform_of_ok hp, Outcome.andThen_ok, hrest,
      Outcome.precededBy_precededBy, ← announcements_cons hp]

theorem performAll_of_ok {effects : List Effect} {q : Player}
    (h : play.player.performAll effects = .ok q) :
    performAll effects play =
      ⟨.ok (), { play with player := q }, play.announcements effects⟩ := by
  have hall := performAll_append h []
  rw [List.append_nil] at hall
  rw [hall, performAll, Outcome.precededBy, List.append_nil]

/-- Effects that end early leave what those before the failing one have left. -/
theorem performAll_of_stopsAfter {effects before : List Effect} {q : Player} {err : PlayError}
    (h : play.player.StopsAfter effects before q err) :
    performAll effects play =
      ⟨.error err, { play with player := q }, play.announcements before⟩ := by
  obtain ⟨hbefore, e, after, rfl, he⟩ := h
  have hfails : ({ play with player := q } : Play s).perform e = ⟨.error err, _, []⟩ :=
    perform_of_error he
  rw [performAll_append hbefore, performAll, hfails, Outcome.andThen, Outcome.precededBy,
    List.append_nil]

/-! ### Visits -/

/-- A visit whose effects all take place. -/
theorem visit_of_ok {p : s.PassageId} {q : Player}
    (h : play.player.performAll (s.passage p).effects = .ok q) :
    play.visit p = ⟨.ok (), { play.markVisited p with player := q },
      play.announcements (s.passage p).effects⟩ := by
  have hmarked : (play.markVisited p).player.performAll (s.passage p).effects = .ok q := h
  exact performAll_of_ok hmarked

/-- **A visit that ends early.** -/
theorem visit_of_stopsAfter {p : s.PassageId} {before : List Effect} {q : Player} {err : PlayError}
    (h : play.player.StopsAfter (s.passage p).effects before q err) :
    play.visit p = ⟨.error err, { play.markVisited p with player := q },
      play.announcements before⟩ := by
  have hmarked : (play.markVisited p).player.StopsAfter (s.passage p).effects before q err := h
  exact performAll_of_stopsAfter hmarked

theorem follow_of_stopsAfter {l : s.LinkId} {before : List Effect} {q : Player} {err : PlayError}
    (h : play.player.StopsAfter (s.passage (s.link l).target).effects before q err) :
    play.follow l = ⟨.error err,
      { (play.markTaken l).markVisited (s.link l).target with player := q },
      play.announcements before⟩ := by
  have htaken : (play.markTaken l).player.StopsAfter (s.passage (s.link l).target).effects before q
      err := h
  rw [follow, visit_of_stopsAfter htaken]
  rfl

/-- A link whose target has effects that fail is followed in vain. -/
theorem exists_stopsAfter_of_follow {l : s.LinkId} {err : PlayError}
    (h : (play.follow l).result = .error err) :
    ∃ before q, play.player.StopsAfter (s.passage (s.link l).target).effects before q err := by
  have hvisit : ((play.markTaken l).visit (s.link l).target).result = .error err :=
    map_eq_error.1 h
  rcases exists_eq_ok_or_exists_eq_error
      ((play.markTaken l).player.performAll (s.passage (s.link l).target).effects)
    with ⟨q, hq⟩ | ⟨err', herr⟩
  · rw [visit_of_ok hq] at hvisit
    cases hvisit
  · obtain ⟨before, q, hstops⟩ := Player.performAll_eq_error_iff.1 herr
    rw [visit_of_stopsAfter hstops] at hvisit
    exact ⟨before, q, Except.error.inj hvisit ▸ hstops⟩

end Play

/-! ### Confirmations -/

namespace Dialog

variable {s : Story} {play : Play s} {d : Dialog s} {l : s.LinkId}

/-- To confirm a dialog is to follow the link at its cursor, and the dialog moves only if that
succeeds. -/
theorem confirm_of_selected (h : d.selected? play = some l) :
    d.confirm play = ((play.follow l).map some,
      match (play.follow l).result with
      | .ok target => { passage := target }
      | .error _ => d) := by
  obtain ⟨links, hlinks, hl⟩ := Option.bind_eq_some_iff.1 h
  have hoffered := toOption_eq_some.1 hlinks
  cases hresult : (play.follow l).result with
  | error e => simp only [confirm, hoffered, hl, hresult]
  | ok target => simp only [confirm, hoffered, hl, hresult]

/-- To confirm a dialog with nothing at its cursor changes nothing. -/
theorem play_confirm_of_not_selected (h : d.selected? play = none) :
    (d.confirm play).1.play = play ∧ (d.confirm play).2 = d := by
  rw [selected?] at h
  rw [confirm]
  cases hlinks : play.offered d.passage with
  | error e => exact ⟨rfl, rfl⟩
  | ok links =>
    rw [hlinks] at h
    have hl : links[d.cursor]? = none := h
    simp only [hl, and_self]

/-- **A confirmation whose visit ends early** leaves the dialog where it was. -/
theorem confirm_of_stopsAfter {before : List Effect} {q : Player} {err : PlayError}
    (hl : d.selected? play = some l)
    (h : play.player.StopsAfter (s.passage (s.link l).target).effects before q err) :
    d.confirm play = (⟨.error err,
      { (play.markTaken l).markVisited (s.link l).target with player := q },
      play.announcements before⟩, d) := by
  rw [confirm_of_selected hl, Play.follow_of_stopsAfter h]
  rfl

end Dialog

namespace Play

variable {s : Story}

/-- **A visit that fails has applied exactly a prefix.** If the effects of the passage lead the
player to another one, the visit succeeds, and the playthrough is the one before it with the mark
and that player. Otherwise some first effect fails in what the effects before it left; the visit
fails as that effect does, and leaves the mark, the player in front of the failing effect, and the
announcements of the effects before it. An effect that fails on its own changes nothing, and nothing
is heard of it. And if a confirmation of a selected link fails, it leaves the dialog as it was; in
the playthrough the link is marked and its target, besides the same prefix. -/
theorem visit_exact (play : Play s) (p : s.PassageId) :
    (∀ q, play.player.performAll (s.passage p).effects = .ok q →
      play.visit p = ⟨.ok (), { play.markVisited p with player := q },
        play.announcements (s.passage p).effects⟩) ∧
    (∀ err, play.player.performAll (s.passage p).effects = .error err →
      ∃ before q, play.player.StopsAfter (s.passage p).effects before q err ∧
        play.visit p = ⟨.error err, { play.markVisited p with player := q },
          play.announcements before⟩) ∧
    (∀ e err, (play.perform e).result = .error err → play.perform e = ⟨.error err, play, []⟩) ∧
    ∀ (d : Dialog s) (l : s.LinkId) (err : PlayError), d.selected? play = some l →
      (d.confirm play).1.result = .error err →
      ∃ before q, play.player.StopsAfter (s.passage (s.link l).target).effects before q err ∧
        d.confirm play = (⟨.error err,
          { (play.markTaken l).markVisited (s.link l).target with player := q },
          play.announcements before⟩, d) := by
  refine ⟨fun q hq => visit_of_ok hq, fun err herr => ?_,
    fun e err he => perform_of_error (result_perform_eq_error_iff.1 he), fun d l err hl he => ?_⟩
  · obtain ⟨before, q, hstops⟩ := Player.performAll_eq_error_iff.1 herr
    exact ⟨before, q, hstops, visit_of_stopsAfter hstops⟩
  · rw [Dialog.confirm_of_selected hl] at he
    obtain ⟨before, q, hstops⟩ := exists_stopsAfter_of_follow (map_eq_error.1 he)
    exact ⟨before, q, hstops, Dialog.confirm_of_stopsAfter hl hstops⟩

end Play

/-! ### The fair again -/

namespace fair

/-- The stall. -/
def stall : fair.PassageId := ⟨1, by decide⟩

/-- The options at the gate, of which there is one. -/
def atGate : Dialog fair := { passage := ⟨0, by decide⟩ }

/-- Somebody listens, and the visitor has some money. -/
def visitor (money : Int) : Play fair :=
  { opened with player := { money := money } }

/-- **With enough money the lamp and the fee are paid for; with too little the visit ends at the
fee**, and the coin that was given stays. -/
theorem visit_exact_stall :
    (visitor 60).player.performAll (fair.passage stall).effects =
      .ok ⟨5, [⟨"lamp", 1⟩], ["sold"]⟩ ∧
    (visitor 60).visit stall =
      ⟨.ok (), { (visitor 60).markVisited stall with player := ⟨5, [⟨"lamp", 1⟩], ["sold"]⟩ },
        [⟨60, [⟨"coin", 1⟩]⟩, ⟨55, [⟨"coin", 1⟩]⟩, ⟨55, [⟨"coin", 1⟩, ⟨"lamp", 1⟩]⟩,
          ⟨5, [⟨"coin", 1⟩, ⟨"lamp", 1⟩]⟩, ⟨5, [⟨"lamp", 1⟩]⟩]⟩ ∧
    (visitor 20).player.performAll (fair.passage stall).effects =
      .error (.negativeMoney 15 (-50)) ∧
    (∃ before q, (visitor 20).player.StopsAfter (fair.passage stall).effects before q
        (.negativeMoney 15 (-50)) ∧
      (visitor 20).visit stall = ⟨.error (.negativeMoney 15 (-50)),
        { (visitor 20).markVisited stall with player := q }, (visitor 20).announcements before⟩) ∧
    ((visitor 20).perform ⟨.takeMoney, "50"⟩).result = .error (.negativeMoney 20 (-50)) ∧
    (visitor 20).perform ⟨.takeMoney, "50"⟩ = ⟨.error (.negativeMoney 20 (-50)), visitor 20, []⟩ ∧
    atGate.selected? (visitor 20) = some buy ∧
    (atGate.confirm (visitor 20)).1.result = .error (.negativeMoney 15 (-50)) ∧
    ∃ before q, (visitor 20).player.StopsAfter (fair.passage (fair.link buy).target).effects before
        q (.negativeMoney 15 (-50)) ∧
      atGate.confirm (visitor 20) = (⟨.error (.negativeMoney 15 (-50)),
        { ((visitor 20).markTaken buy).markVisited (fair.link buy).target with player := q },
        (visitor 20).announcements before⟩, atGate) := by
  have hrich : (visitor 60).player.performAll (fair.passage stall).effects =
      .ok ⟨5, [⟨"lamp", 1⟩], ["sold"]⟩ := by decide +kernel
  have hpoor : (visitor 20).player.performAll (fair.passage stall).effects =
      .error (.negativeMoney 15 (-50)) := by decide +kernel
  have hfee : ((visitor 20).perform ⟨.takeMoney, "50"⟩).result =
      .error (.negativeMoney 20 (-50)) := by decide +kernel
  have hselected : atGate.selected? (visitor 20) = some buy := by decide +kernel
  have hconfirm : (atGate.confirm (visitor 20)).1.result = .error (.negativeMoney 15 (-50)) := by
    decide +kernel
  have hheard : (visitor 60).announcements (fair.passage stall).effects =
      [⟨60, [⟨"coin", 1⟩]⟩, ⟨55, [⟨"coin", 1⟩]⟩, ⟨55, [⟨"coin", 1⟩, ⟨"lamp", 1⟩]⟩,
        ⟨5, [⟨"coin", 1⟩, ⟨"lamp", 1⟩]⟩, ⟨5, [⟨"lamp", 1⟩]⟩] := by decide +kernel
  obtain ⟨hok, -, -, -⟩ := Play.visit_exact (visitor 60) stall
  obtain ⟨-, herror, heffect, hdialog⟩ := Play.visit_exact (visitor 20) stall
  exact ⟨hrich, hheard ▸ hok _ hrich, hpoor, herror _ hpoor, hfee, heffect _ _ hfee, hselected,
    hconfirm, hdialog atGate buy _ hselected hconfirm⟩

end fair

end Skein
