import Mathlib.Data.List.Induction
import Skein.Proofs.Success
import Skein.Session

/-!
# When the cursor points at nothing

A session keeps its cursor as a number and judges the options anew each time, so the number can be
too large for the options that there are now. Nothing is selected then although there is something
to choose, and confirming answers that there was nothing to take. Moving the cursor repairs this,
and a confirmation that succeeds starts over with a cursor on the first option.

One call is left. A confirmation that fails has marked the target of its link as visited, and some
effects of the target may have taken place, while the dialog stays where it was: the options of the
passage can have become fewer, and the cursor is not looked after. This is the only way in which a
session loses its selection, and it does not regain it before the cursor is moved
(`Session.isStranded_after_iff`).

## Main definitions

* `Session.Call`, `Session.after` — the moves of a session, and the session after some of them
* `Session.KeepsSelection` — where there is a choice, one option is selected and can be taken
* `Session.IsStranded` — there is something to choose, and the cursor is behind it
* `Session.Strands` — confirming fails and leaves the session stranded

## Main results

* `Session.keepsSelection_iff` — the selection is lost exactly where the session is stranded
* `Session.isStranded_call_iff` — what a single call does
* `Session.keepsSelection_after_iff` — what any sequence of calls does
-/

namespace Skein

/-! ### Confirming -/

namespace Dialog

variable {s : Story} {d : Dialog s} {play : Play s}

theorem confirm_of_error {e : PlayError} (h : play.offered d.passage = .error e) :
    d.confirm play = (⟨.error e, play, []⟩, d) := by
  rw [confirm, h]

theorem confirm_of_le {links : List s.LinkId} (h : play.offered d.passage = .ok links)
    (hcursor : links.length ≤ d.cursor) : d.confirm play = (⟨.ok none, play, []⟩, d) := by
  have hget : links[d.cursor]? = none := List.getElem?_eq_none hcursor
  simp only [confirm, h, hget]

theorem confirm_fst {links : List s.LinkId} {l : s.LinkId}
    (h : play.offered d.passage = .ok links) (hl : links[d.cursor]? = some l) :
    (d.confirm play).1 = (play.follow l).map some := by
  simp only [confirm, h, hl]

/-- After a confirmation that succeeds, the cursor is on the first option. -/
theorem confirm_snd_of_ok {links : List s.LinkId} {l : s.LinkId} {target : s.PassageId}
    (h : play.offered d.passage = .ok links) (hl : links[d.cursor]? = some l)
    (hresult : (play.follow l).result = .ok target) :
    (d.confirm play).2 = { passage := target } := by
  simp only [confirm, h, hl, hresult]

/-- After a confirmation that fails, the dialog is where it was. -/
theorem confirm_snd_of_error {links : List s.LinkId} {l : s.LinkId} {e : PlayError}
    (h : play.offered d.passage = .ok links) (hl : links[d.cursor]? = some l)
    (hresult : (play.follow l).result = .error e) : (d.confirm play).2 = d := by
  simp only [confirm, h, hl, hresult]

/-- The options of a dialog, of which the one at the cursor is selected. -/
theorem length_filter_selected (text : s.LinkId → String) (links : List s.LinkId) (cursor : Nat) :
    ((links.mapIdx fun i l => (⟨l, text l, i == cursor⟩ : Choice s)).filter
      Choice.selected).length = if cursor < links.length then 1 else 0 := by
  induction links generalizing cursor with
  | nil => rfl
  | cons l links ih =>
    rw [List.mapIdx_cons]
    cases cursor with
    | zero =>
      have hrest : ((links.mapIdx fun i l => (⟨l, text l, i + 1 == 0⟩ : Choice s)).filter
          Choice.selected) = [] := by
        refine List.filter_eq_nil_iff.2 fun choice hchoice => ?_
        obtain ⟨i, hi, rfl⟩ := List.mem_mapIdx.1 hchoice
        simp
      rw [List.filter_cons_of_pos (by rfl), hrest]
      exact (if_pos (Nat.succ_pos links.length)).symm
    | succ cursor =>
      have hshift : (fun i l => (⟨l, text l, i + 1 == cursor + 1⟩ : Choice s)) =
          fun i l => ⟨l, text l, i == cursor⟩ := by
        funext i l
        rw [show (i + 1 == cursor + 1) = (i == cursor) by simp]
      rw [List.filter_cons_of_neg (by simp), hshift, ih, List.length_cons]
      simp only [Nat.succ_lt_succ_iff]

end Dialog

namespace Session

/-! ### Calls -/

/-- The moves of a session. -/
inductive Call where
  /-- Select the next option. -/
  | next
  /-- Select the previous option. -/
  | previous
  /-- Select the option with the given index. -/
  | select (index : Nat)
  /-- Take the selected option. -/
  | confirm
  deriving DecidableEq

/-- The session after a call; a movement of the cursor that fails leaves it as it was. -/
def call (s : Session) : Call → Session
  | .next => s.next.toOption.getD s
  | .previous => s.previous.toOption.getD s
  | .select index => (s.select index).toOption.getD s
  | .confirm => s.confirm.2

/-- The session after some calls. -/
def after (s : Session) (calls : List Call) : Session :=
  calls.foldl call s

theorem after_concat (s : Session) (calls : List Call) (c : Call) :
    s.after (calls ++ [c]) = (s.after calls).call c := by
  rw [after, List.foldl_append]
  rfl

/-! ### The selection -/

/-- If there is something to choose, then exactly one option is selected, and confirming does not
answer that there was none. -/
def KeepsSelection (s : Session) : Prop :=
  s.isFinished = .ok false →
    (∃ options, s.dialog.options s.play = .ok options ∧
      (options.filter Choice.selected).length = 1) ∧
    s.confirm.1 ≠ .ok false

/-- There is something to choose, and the cursor is behind it. -/
def IsStranded (s : Session) : Prop :=
  ∃ links, s.play.offered s.dialog.passage = .ok links ∧ links ≠ [] ∧
    links.length ≤ s.dialog.cursor

/-- Confirming fails, and of the options that there are after that the cursor is on none, although
there are some. -/
def Strands (s : Session) : Prop :=
  (∃ e, s.confirm.1 = .error e) ∧
    ∃ links, (s.dialog.confirm s.play).1.play.offered s.dialog.passage = .ok links ∧ links ≠ [] ∧
      links.length ≤ s.dialog.cursor

/-- A cursor that is on an option is behind nothing. -/
theorem not_isStranded_of_lt {s : Session} {links : List s.story.LinkId}
    (h : s.play.offered s.dialog.passage = .ok links) (hcursor : s.dialog.cursor < links.length) :
    ¬s.IsStranded := by
  rintro ⟨links', hlinks', -, hle⟩
  obtain rfl : links = links' := Except.ok.inj (h.symm.trans hlinks')
  exact Nat.not_le_of_lt hcursor hle

/-- A cursor on the first place is behind nothing, because there is something to choose. -/
theorem not_isStranded_of_cursor_eq_zero {s : Session} (h : s.dialog.cursor = 0) :
    ¬s.IsStranded := by
  rintro ⟨links, -, hne, hle⟩
  rw [h] at hle
  exact hne (List.length_eq_zero_iff.1 (Nat.le_zero.1 hle))

theorem isFinished_eq_ok_false_iff {s : Session} :
    s.isFinished = .ok false ↔
      ∃ links, s.play.offered s.dialog.passage = .ok links ∧ links ≠ [] := by
  rw [isFinished, Dialog.isFinished]
  constructor
  · intro h
    obtain ⟨links, hlinks, hempty⟩ := bind_eq_ok.1 h
    refine ⟨links, hlinks, ?_⟩
    rintro rfl
    cases hempty
  · rintro ⟨links, hlinks, hne⟩
    exact bind_eq_ok.2 ⟨links, hlinks, congrArg Except.ok (List.isEmpty_eq_false_iff.2 hne)⟩

/-- Where the cursor is on an option, a confirmation answers what following its link does. -/
theorem confirm_answer {s : Session} {links : List s.story.LinkId} {l : s.story.LinkId}
    (h : s.play.offered s.dialog.passage = .ok links) (hl : links[s.dialog.cursor]? = some l) :
    s.confirm.1 = (s.play.follow l).result.map fun _ => true := by
  have hfst : s.confirm.1 = (s.dialog.confirm s.play).1.result.map Option.isSome := rfl
  rw [hfst, Dialog.confirm_fst h hl, Outcome.map]
  cases (s.play.follow l).result with
  | error e => rfl
  | ok target => rfl

/-- **The selection is lost exactly where the session is stranded.** -/
theorem keepsSelection_iff {s : Session} : s.KeepsSelection ↔ ¬s.IsStranded := by
  constructor
  · rintro h ⟨links, hlinks, hne, hle⟩
    obtain ⟨-, hconfirm⟩ := h (isFinished_eq_ok_false_iff.2 ⟨links, hlinks, hne⟩)
    refine hconfirm ?_
    rw [confirm, Dialog.confirm_of_le hlinks hle]
    rfl
  · intro h hfinished
    obtain ⟨links, hlinks, hne⟩ := isFinished_eq_ok_false_iff.1 hfinished
    have hlt : s.dialog.cursor < links.length :=
      Nat.lt_of_not_le fun hle => h ⟨links, hlinks, hne, hle⟩
    refine ⟨⟨_, bind_eq_ok.2 ⟨links, hlinks, rfl⟩, ?_⟩, ?_⟩
    · rw [Dialog.length_filter_selected, if_pos hlt]
    · rw [confirm_answer hlinks (List.getElem?_eq_getElem hlt)]
      intro hfalse
      obtain ⟨_, -, heq⟩ := map_eq_ok.1 hfalse
      cases heq

/-! ### What calls do -/

theorem move_of_error {s : Session} {move : Nat → Nat → Nat} {e : PlayError}
    (h : s.play.offered s.dialog.passage = .error e) :
    (s.withDialog (s.dialog.moveCursor move s.play)).toOption.getD s = s := by
  rw [Dialog.moveCursor, h]
  rfl

theorem move_of_ok {s : Session} {move : Nat → Nat → Nat} {links : List s.story.LinkId}
    (h : s.play.offered s.dialog.passage = .ok links) :
    (s.withDialog (s.dialog.moveCursor move s.play)).toOption.getD s =
      { s with dialog := { s.dialog with cursor := move links.length s.dialog.cursor } } := by
  rw [Dialog.moveCursor, h]
  rfl

/-- A movement puts the cursor on an option, if there is one. -/
theorem not_isStranded_of_move {s : Session} {move : Nat → Nat → Nat}
    (hmove : ∀ count cursor, count ≠ 0 → move count cursor < count) :
    ¬((s.withDialog (s.dialog.moveCursor move s.play)).toOption.getD s).IsStranded := by
  cases hoffered : s.play.offered s.dialog.passage with
  | error e =>
    rw [move_of_error hoffered]
    rintro ⟨links, hlinks, -⟩
    rw [hoffered] at hlinks
    cases hlinks
  | ok offered =>
    rw [move_of_ok hoffered]
    rintro ⟨links, hlinks, hne, hle⟩
    obtain rfl : offered = links := Except.ok.inj (hoffered.symm.trans hlinks)
    have hlt := hmove offered.length s.dialog.cursor (mt List.length_eq_zero_iff.1 hne)
    exact Nat.not_le_of_lt hlt hle

theorem isStranded_confirm {s : Session} :
    s.confirm.2.IsStranded ↔
      ∃ links, (s.dialog.confirm s.play).1.play.offered (s.dialog.confirm s.play).2.passage =
          .ok links ∧ links ≠ [] ∧ links.length ≤ (s.dialog.confirm s.play).2.cursor :=
  Iff.rfl

theorem not_strands_of_ok {s : Session} {b : Bool} (h : s.confirm.1 = .ok b) : ¬s.Strands := by
  rintro ⟨⟨e, he⟩, -⟩
  rw [h] at he
  cases he

/-- Where the cursor is on an option, only a confirmation that fails can leave the session stranded:
one that succeeds puts the cursor on the first option. -/
theorem isStranded_confirm_of_getElem? {s : Session} {links : List s.story.LinkId}
    {l : s.story.LinkId} (h : s.play.offered s.dialog.passage = .ok links)
    (hl : links[s.dialog.cursor]? = some l) : s.confirm.2.IsStranded ↔ s.Strands := by
  have hanswer := confirm_answer h hl
  cases hresult : (s.play.follow l).result with
  | ok target =>
    rw [hresult] at hanswer
    have hcursor : s.confirm.2.dialog.cursor = 0 := by
      show (s.dialog.confirm s.play).2.cursor = 0
      rw [Dialog.confirm_snd_of_ok h hl hresult]
    exact iff_of_false (not_isStranded_of_cursor_eq_zero hcursor) (not_strands_of_ok hanswer)
  | error e =>
    rw [hresult] at hanswer
    rw [isStranded_confirm, Dialog.confirm_snd_of_error h hl hresult]
    exact (and_iff_right ⟨e, hanswer⟩).symm

/-- **A confirmation leaves a session stranded** if it was stranded before, or if the confirmation
strands it. -/
theorem isStranded_confirm_iff {s : Session} :
    s.confirm.2.IsStranded ↔ s.IsStranded ∨ s.Strands := by
  cases hoffered : s.play.offered s.dialog.passage with
  | error e =>
    have hstrands : ¬s.Strands := by
      rintro ⟨-, links, hlinks, -⟩
      rw [Dialog.confirm_of_error hoffered, hoffered] at hlinks
      cases hlinks
    rw [isStranded_confirm, Dialog.confirm_of_error hoffered, or_iff_left hstrands]
    rfl
  | ok links =>
    rcases Nat.lt_or_ge s.dialog.cursor links.length with hlt | hle
    · rw [or_iff_right (not_isStranded_of_lt hoffered hlt)]
      exact isStranded_confirm_of_getElem? hoffered (List.getElem?_eq_getElem hlt)
    · have hok : s.confirm.1 = .ok false := by
        rw [confirm, Dialog.confirm_of_le hoffered hle]
        rfl
      rw [isStranded_confirm, Dialog.confirm_of_le hoffered hle,
        or_iff_left (not_strands_of_ok hok)]
      rfl

/-- **What a single call does**: movements of the cursor leave no session stranded, and a
confirmation does if the session was stranded before or if it strands the session. -/
theorem isStranded_call_iff {s : Session} {c : Call} :
    (s.call c).IsStranded ↔ c = .confirm ∧ (s.IsStranded ∨ s.Strands) := by
  cases c with
  | next =>
    exact iff_of_false (not_isStranded_of_move fun _ cursor h => Dialog.nextCursor_lt h cursor)
      fun h => by cases h.1
  | previous =>
    exact iff_of_false (not_isStranded_of_move fun _ cursor h => Dialog.previousCursor_lt h cursor)
      fun h => by cases h.1
  | select index =>
    exact iff_of_false (not_isStranded_of_move fun _ _ h => Dialog.selectCursor_lt h index)
      fun h => by cases h.1
  | confirm => exact isStranded_confirm_iff.trans (and_iff_right rfl).symm

/-! ### What sequences of calls do -/

/-- A session is stranded after some calls if the last of them are confirmations, of which the first
one stranded it. -/
theorem isStranded_after_iff {s : Session} (hs : ¬s.IsStranded) (calls : List Call) :
    (s.after calls).IsStranded ↔
      ∃ earlier k, calls = earlier ++ List.replicate (k + 1) .confirm ∧
        (s.after earlier).Strands := by
  induction calls using List.reverseRecOn with
  | nil =>
    refine iff_of_false hs ?_
    rintro ⟨earlier, k, heq, -⟩
    exact absurd heq (by simp)
  | append_singleton calls c ih =>
    rw [after_concat, isStranded_call_iff, ih]
    constructor
    · rintro ⟨rfl, ⟨earlier, k, rfl, hstrands⟩ | hstrands⟩
      · exact ⟨earlier, k + 1, by rw [List.append_assoc, ← List.replicate_succ'], hstrands⟩
      · exact ⟨calls, 0, rfl, hstrands⟩
    · rintro ⟨earlier, k, heq, hstrands⟩
      rw [List.replicate_succ', ← List.append_assoc] at heq
      obtain ⟨hcalls, hc⟩ := List.append_inj' heq rfl
      refine ⟨List.singleton_inj.1 hc, ?_⟩
      cases k with
      | zero =>
        rw [hcalls, List.replicate_zero, List.append_nil]
        exact .inr hstrands
      | succ k => exact .inl ⟨earlier, k, hcalls, hstrands⟩

/-- A session begins with its cursor on the first option. -/
theorem cursor_eq_zero_of_begin {script start : String} {session : Session}
    (h : Session.begin script start = .ok session) : session.dialog.cursor = 0 := by
  rw [Session.begin] at h
  split at h
  · cases h
  · next game _ =>
    rw [ofGame] at h
    split at h
    · cases h
    · cases h
    · next dialog hdialog =>
      obtain rfl := Except.ok.inj h
      rw [Dialog.begin] at hdialog
      split at hdialog
      · cases hdialog
      · obtain ⟨_, -, hsome⟩ := map_eq_ok.1 hdialog
        obtain rfl := Option.some.inj hsome
        rfl

/-- **Where a session keeps its selection**: everywhere but directly after a confirmation that
strands it and, as long as it is only confirmed again, after that. -/
theorem keepsSelection_after_iff {script start : String} {session : Session}
    (h : Session.begin script start = .ok session) (calls : List Call) :
    (session.after calls).KeepsSelection ↔
      ¬∃ earlier k, calls = earlier ++ List.replicate (k + 1) .confirm ∧
        (session.after earlier).Strands := by
  have hbegin : ¬session.IsStranded :=
    not_isStranded_of_cursor_eq_zero (cursor_eq_zero_of_begin h)
  rw [keepsSelection_iff, isStranded_after_iff hbegin]

/-- A bank with a ferry, and a bridge that can be tried once and has to be paid for. -/
def bridgeScript : String :=
  ":: Bank\n[[Ferry]]\n[[Bridge]]\n:: Ferry\nThe ferry waits.\n" ++
    ":: Bridge [once]\ntakeMoney: 5\n--\nThe other bank.\n"

theorem bridgeScript_begins : (Session.begin bridgeScript "Bank").toOption.isSome = true := by
  decide +kernel

/-- At the bridge, every sequence of calls is covered. -/
theorem bridgeScript_keepsSelection_after_iff :
    ∃ session, Session.begin bridgeScript "Bank" = .ok session ∧
      ∀ calls, (session.after calls).KeepsSelection ↔
        ¬∃ earlier k, calls = earlier ++ List.replicate (k + 1) .confirm ∧
          (session.after earlier).Strands := by
  obtain ⟨session, hsession⟩ := Option.isSome_iff_exists.1 bridgeScript_begins
  exact ⟨session, toOption_eq_some.1 hsession,
    keepsSelection_after_iff (toOption_eq_some.1 hsession)⟩

/-- The bridge is tried. -/
def bridgeCalls : List Call :=
  [.select 1, .confirm]

/-- At the bridge, two calls are enough: the bridge was tried without money, and of the options that
are left, which is the ferry alone, none is selected. -/
theorem bridgeScript_loses_selection :
    ∃ session, Session.begin bridgeScript "Bank" = .ok session ∧
      (session.after bridgeCalls).isFinished = .ok false ∧
      (session.after bridgeCalls).confirm.1 = .ok false ∧
      ((session.after bridgeCalls).dialog.options (session.after bridgeCalls).play).toOption.map
        (fun options => options.map fun option => (option.text, option.selected)) =
          some [("Ferry", false)] ∧
      ¬(session.after bridgeCalls).KeepsSelection := by
  have hrun : ((Session.begin bridgeScript "Bank").toOption.map fun session =>
      ((session.after bridgeCalls).isFinished.toOption,
        (session.after bridgeCalls).confirm.1.toOption,
        ((session.after bridgeCalls).dialog.options (session.after bridgeCalls).play).toOption.map
          fun options => options.map fun option => (option.text, option.selected))) =
      some (some false, some false, some [("Ferry", false)]) := by
    decide +kernel
  obtain ⟨session, hsession, hall⟩ := Option.map_eq_some_iff.1 hrun
  obtain ⟨hfinished, hrest⟩ := Prod.mk.inj hall
  obtain ⟨hconfirm, hoptions⟩ := Prod.mk.inj hrest
  refine ⟨session, toOption_eq_some.1 hsession, toOption_eq_some.1 hfinished,
    toOption_eq_some.1 hconfirm, hoptions, fun hkeeps => ?_⟩
  exact (hkeeps (toOption_eq_some.1 hfinished)).2 (toOption_eq_some.1 hconfirm)

end Session

end Skein
