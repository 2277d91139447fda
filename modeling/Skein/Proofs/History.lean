import Skein.Proofs.Linking
import Skein.Proofs.Visits

/-!
# History only grows

Three things in a playthrough are never taken back: the marks of passages, the marks of links, and
facts. A mark means something definite, because nothing but a visit sets the one kind and nothing
but the taking of a link the other; so the marks after a run say which visits there were and which
links were taken, whether these moves succeeded or not. `Play.after_iff_occurs` is the argument for
both: what a single operation does to a mark decides what any run does to it.

Facts have no such origin, they also come from outside, but they stay. A text that asks for facts
only, and for their presence, therefore never disappears again, and one that asks for their absence
never comes back.

The story itself does not occur in any of this: playthroughs are typed by their story, and what is
written of it is what was written before the run.

## Main definitions

* `Operation.taken?` — the link that an operation takes
* `Play.Occurs` — something is done by some operation of a run
* `Play.isShown` — whether a stretch of text is shown

## Main results

* `Play.after_iff_occurs` — a mark after a run was set by one of its operations, or before
* `Operation.get_taken_run`, `Operation.facts_subset_run` — what one operation does
* `Play.isShown_of_positive`, `Play.isShown_of_negative` — texts that depend on facts
* `Play.history_grows` — all of this together
-/

namespace Skein

variable {s : Story}

/-! ### Something is done -/

namespace Play

/-- Some operation of a run does something, in the playthrough that it finds. -/
def Occurs (does : Operation s → Play s → Prop) (ops : List (Operation s)) (play : Play s) :
    Prop :=
  ∃ before op later, ops = before ++ op :: later ∧ does op (play.after before)

variable {does : Operation s → Play s → Prop}

theorem not_occurs_nil (play : Play s) : ¬Occurs does [] play := by
  rintro ⟨before, op, later, heq, -⟩
  exact absurd heq (by simp)

theorem occurs_cons {op : Operation s} {ops : List (Operation s)} {play : Play s} :
    Occurs does (op :: ops) play ↔ does op play ∨ Occurs does ops (op.run play).play := by
  constructor
  · rintro ⟨before, op', later, heq, hdoes⟩
    cases before with
    | nil =>
      obtain ⟨rfl, -⟩ := List.cons.inj heq
      exact .inl hdoes
    | cons first before =>
      obtain ⟨rfl, rfl⟩ := List.cons.inj heq
      exact .inr ⟨before, op', later, rfl, hdoes⟩
  · rintro (hdoes | ⟨before, op', later, rfl, hdoes⟩)
    · exact ⟨[], op, ops, rfl, hdoes⟩
    · exact ⟨op :: before, op', later, rfl, hdoes⟩

/-- **A mark after a run was set by one of its operations, or before.** -/
theorem after_iff_occurs (mark : Play s → Prop)
    (hstep : ∀ op play, mark (Operation.run op play).play ↔ does op play ∨ mark play)
    (ops : List (Operation s)) (play : Play s) :
    mark (play.after ops) ↔ Occurs does ops play ∨ mark play := by
  induction ops generalizing play with
  | nil => exact (or_iff_right (not_occurs_nil play)).symm
  | cons op ops ih => rw [after_cons, ih, hstep, occurs_cons, or_left_comm, or_assoc]

theorem after_append (first second : List (Operation s)) (play : Play s) :
    play.after (first ++ second) = (play.after first).after second :=
  List.foldl_append

/-! ### Links that were taken -/

theorem taken_visit (p : s.PassageId) (play : Play s) : (play.visit p).play.taken = play.taken := by
  rw [visit, performAll_frame]
  rfl

theorem taken_follow (l : s.LinkId) (play : Play s) :
    (play.follow l).play.taken = (play.markTaken l).taken :=
  taken_visit (s.link l).target (play.markTaken l)

theorem get_taken_follow {l e : s.LinkId} {play : Play s} :
    (play.follow e).play.taken.get l = true ↔ e = l ∨ play.taken.get l = true := by
  rw [taken_follow, get_markTaken, Bool.or_eq_true, decide_eq_true_eq, eq_comm]

end Play

namespace Operation

/-- The link that an operation takes, if it takes one. -/
def taken? (op : Operation s) (play : Play s) : Option s.LinkId :=
  match op with
  | follow l => some l
  | confirm d => d.selected? play
  | _ => none

/-- **A link is marked after an operation** if it was taken by it, or marked before. -/
theorem get_taken_run (op : Operation s) (play : Play s) (l : s.LinkId) :
    (op.run play).play.taken.get l = true ↔
      op.taken? play = some l ∨ play.taken.get l = true := by
  cases op with
  | visit p =>
    show (play.visit p).play.taken.get l = true ↔ _
    rw [Play.taken_visit]
    simp [taken?]
  | follow e =>
    show (play.follow e).play.taken.get l = true ↔ _
    rw [Play.get_taken_follow]
    simp [taken?]
  | confirm d =>
    show (d.confirm play).1.play.taken.get l = true ↔ d.selected? play = some l ∨ _
    cases hselected : d.selected? play with
    | none =>
      rw [(Dialog.play_confirm_of_not_selected hselected).1]
      simp
    | some e =>
      rw [Dialog.confirm_of_selected hselected, Option.some_inj]
      exact Play.get_taken_follow
  | begin =>
    show (Dialog.begin play).play.taken.get l = true ↔ _
    rw [Dialog.begin]
    cases play.start with
    | none => simp [taken?]
    | some p =>
      show (play.visit p).play.taken.get l = true ↔ _
      rw [Play.taken_visit]
      simp [taken?]
  | change c =>
    show (play.change c).play.taken.get l = true ↔ _
    rw [Play.change_frame]
    simp [taken?]
  | perform e =>
    show (play.perform e).play.taken.get l = true ↔ _
    rw [Play.perform_frame]
    simp [taken?]
  | setStart title =>
    rw [run, Play.setStart]
    cases s.find title with
    | error e => simp [taken?, Except.map]
    | ok p => simp [taken?, Except.map]
  | _ => simp [run, taken?, Outcome.ofQuery]

end Operation

/-! ### Facts -/

namespace Player

/-- Money has nothing to do with items and facts. -/
theorem addMoney_frame {p q : Player} {amount : Int} (h : p.addMoney amount = .ok q) :
    q = { p with money := q.money } := by
  rw [addMoney] at h
  split at h
  · cases h
  · split at h
    · cases h
    · obtain rfl := Except.ok.inj h
      rfl

theorem takeMoney_frame {p q : Player} {amount : Int} (h : p.takeMoney amount = .ok q) :
    q = { p with money := q.money } := by
  rw [takeMoney] at h
  split at h
  · cases h
  · exact addMoney_frame h

/-- A change adds at most one fact, and takes none. -/
theorem mem_facts_change {p q : Player} {c : Change} (h : p.change c = .ok q) {fact : String} :
    fact ∈ q.facts ↔ c = .addFact fact ∨ fact ∈ p.facts := by
  cases c with
  | addItem name =>
    obtain rfl := Except.ok.inj h
    simp [addItem]
  | takeItem name =>
    obtain rfl := Except.ok.inj h
    simp [takeItem_eq]
  | addFact learned =>
    obtain rfl := Except.ok.inj h
    simp [addFact, eq_comm]
  | addMoney amount =>
    rw [addMoney_frame h]
    simp
  | takeMoney amount =>
    rw [takeMoney_frame h]
    simp

theorem facts_subset_afterEvents (p : Player) (changes : List (Except PlayError Change)) :
    p.facts ⊆ (p.afterEvents (p.events changes)).facts := by
  refine afterEvents_induction (P := fun q => p.facts ⊆ q.facts) ?_ (List.Subset.refl _)
  intro c _ q r h hq fact hfact
  exact (mem_facts_change h).2 (.inr (hq hfact))

end Player

/-- **No operation takes a fact away**, whether it succeeds or not. -/
theorem Operation.facts_subset_run (op : Operation s) (play : Play s) :
    play.player.facts ⊆ (op.run play).play.player.facts := by
  rw [(op.run_replays play).player]
  exact play.player.facts_subset_afterEvents _

namespace Play

theorem facts_subset_after (ops : List (Operation s)) (play : Play s) :
    play.player.facts ⊆ (play.after ops).player.facts := by
  induction ops generalizing play with
  | nil => exact List.Subset.refl _
  | cons op ops ih => exact List.Subset.trans (op.facts_subset_run play) (ih _)

/-! ### Texts that depend on facts -/

/-- Whether a stretch of text is shown. -/
def isShown (play : Play s) (segment : Segment) : Except PlayError Bool :=
  Condition.allHold segment.conditions play.player

/-- What is shown of a passage is what is shown of its stretches of text, in order. -/
theorem content_eq_ok_iff {play : Play s} {p : s.PassageId} {text : String} :
    play.content p = .ok text ↔
      ∃ shown, select play.isShown (s.passage p).segments = .ok shown ∧
        String.join (shown.map Segment.text) = text := by
  rw [content, bind_eq_ok]
  simp only [pure, Except.pure, Except.ok.injEq]
  rfl

end Play

/-- A condition that asks whether a fact is known. -/
theorem Condition.test_fact {c : Condition} (h : c.kind = .fact) (p : Player) :
    c.test p = .ok (decide (c.value ∈ p.facts) == c.positive) := by
  simp [test, answer, h, Except.map, Player.hasFact, List.contains_eq_mem]

namespace Play

variable {play later : Play s} {segment : Segment}

/-- **What is shown for the sake of known facts stays shown**, as facts stay known. -/
theorem isShown_of_positive (h : ∀ c ∈ segment.conditions, c.kind = .fact ∧ c.positive = true)
    (hfacts : play.player.facts ⊆ later.player.facts) (hshown : play.isShown segment = .ok true) :
    later.isShown segment = .ok true := by
  rw [isShown, Condition.allHold_eq_ok_true_iff] at hshown ⊢
  intro c hc
  obtain ⟨hkind, hpositive⟩ := h c hc
  have hknown : c.value ∈ play.player.facts := by
    simpa [Condition.test_fact hkind, hpositive] using hshown c hc
  simp [Condition.test_fact hkind, hpositive, hfacts hknown]

/-- **What is hidden because of known facts stays hidden.** -/
theorem isShown_of_negative (h : ∀ c ∈ segment.conditions, c.kind = .fact ∧ c.positive = false)
    (hfacts : play.player.facts ⊆ later.player.facts) (hhidden : play.isShown segment = .ok false) :
    later.isShown segment = .ok false := by
  have hjudged : ∀ now : Play s, now.isShown segment =
      .ok (segment.conditions.all fun c => decide (c.value ∉ now.player.facts)) := by
    intro now
    refine Condition.allHold_eq_ok_all fun c hc => ?_
    obtain ⟨hkind, hnegative⟩ := h c hc
    simp [Condition.test_fact hkind, hnegative]
  rw [hjudged, Except.ok.injEq, List.all_eq_false] at hhidden ⊢
  obtain ⟨c, hc, hknown⟩ := hhidden
  exact ⟨c, hc, by simpa using hfacts (by simpa using hknown)⟩

/-! ### Runs -/

/-- **History only grows, and the story stays as it was written.** After any run from the beginning,
failed operations included, a passage is marked as visited exactly if some operation of the run
entered it, and a link is marked as taken exactly if some operation took it. No operation takes a
fact away. The story still says what its draft says. And a text that asks for known facts only stays
shown once it is shown, as one that asks for unknown facts only stays hidden once it is hidden. -/
theorem history_grows {d : Draft} (hs : Story.ofDraft d = .ok s) (ops : List (Operation s)) :
    (∀ p, (after ops {}).visited.get p = true ↔
      Occurs (fun op play => op.deed? play = some (.enter p)) ops {}) ∧
    (∀ l, (after ops {}).taken.get l = true ↔
      Occurs (fun op play => op.taken? play = some l) ops {}) ∧
    (∀ op, (after ops {}).player.facts ⊆ (Operation.run op (after ops {})).play.player.facts) ∧
    (s.IsLinked d ∧
      s.toDraft = { d with passages := d.passages.map fun p => { p with tags := [] } }) ∧
    (∀ segment, (∀ c ∈ Segment.conditions segment, c.kind = .fact ∧ c.positive = true) →
      ∀ more, (after ops {}).isShown segment = .ok true →
        (after (ops ++ more) {}).isShown segment = .ok true) ∧
    ∀ segment, (∀ c ∈ Segment.conditions segment, c.kind = .fact ∧ c.positive = false) →
      ∀ more, (after ops {}).isShown segment = .ok false →
        (after (ops ++ more) {}).isShown segment = .ok false := by
  have hnew := isUntouched_empty (s := s)
  have hlinked := Story.isLinked_of_ofDraft hs
  refine ⟨fun p => ?_, fun l => ?_, fun op => op.facts_subset_run _, ⟨hlinked, hlinked.toDraft_eq⟩,
    fun segment h more hshown => ?_, fun segment h more hhidden => ?_⟩
  · rw [after_iff_occurs (fun play => play.visited.get p = true)
      (fun op play => get_visited_run op play p), or_iff_left]
    rw [hnew.visited p]
    exact Bool.false_ne_true
  · rw [after_iff_occurs (fun play => play.taken.get l = true)
      (fun op play => op.get_taken_run play l), or_iff_left]
    rw [hnew.taken l]
    exact Bool.false_ne_true
  · rw [after_append]
    exact isShown_of_positive h (facts_subset_after more _) hshown
  · rw [after_append]
    exact isShown_of_negative h (facts_subset_after more _) hhidden

end Play

/-! ### A lighthouse -/

/-- A text that is shown once the lamp is lit. -/
def glow : Segment := ⟨"The lamp burns.\n", [⟨true, .fact, "lit"⟩]⟩

/-- A text that is shown as long as the lamp is not lit. -/
def gloom : Segment := ⟨"It is dark.\n", [⟨false, .fact, "lit"⟩]⟩

/-- What is written of a lighthouse, in which the lamp is lit before the oil has to be paid. -/
def lighthouseDraft : Draft where
  passages := [
    { title := "Pier", segments := [glow, gloom], links := [⟨"Climb", "Tower", [], []⟩] },
    { title := "Tower", effects := [⟨.addFact, "lit"⟩, ⟨.takeMoney, "5"⟩] }]

/-- The pier and the tower of the lighthouse. -/
def lighthouse : Story where
  title := ""
  passages := [⟨"Pier", "", [glow, gloom], [], false⟩,
    ⟨"Tower", "", [], [⟨.addFact, "lit"⟩, ⟨.takeMoney, "5"⟩], false⟩]
  links := [⟨0, 1, "Climb", [], []⟩]
  titles_nodup := by decide

namespace lighthouse

theorem ofDraft_lighthouseDraft : Story.ofDraft lighthouseDraft = .ok lighthouse := by
  with_unfolding_all rfl

/-- The passage at the foot of the tower. -/
def pier : lighthouse.PassageId := ⟨0, by decide⟩

/-- The passage with the lamp. -/
def tower : lighthouse.PassageId := ⟨1, by decide⟩

/-- The link to the tower. -/
def climb : lighthouse.LinkId := ⟨0, by decide⟩

/-- **The tower is climbed without money for the oil.** The visit fails, but the tower was visited
and the lamp is lit, so the pier is not dark any more, whatever is done. -/
theorem history_grows_climb :
    Story.ofDraft lighthouseDraft = .ok lighthouse ∧
    ((Operation.follow climb).run {}).result.toOption = none ∧
    (Play.after [.follow climb] {}).visited.get tower = true ∧
    (Play.after [.follow climb] {}).visited.get pier = false ∧
    (Play.after [.follow climb] {}).taken.get climb = true ∧
    lighthouse.IsLinked lighthouseDraft ∧
    (Play.after [.follow climb] {}).isShown glow = .ok true ∧
    (Play.after [.follow climb] {}).isShown gloom = .ok false ∧
    ∀ more, (Play.after ([.follow climb] ++ more) {}).isShown glow = .ok true ∧
      (Play.after ([.follow climb] ++ more) {}).isShown gloom = .ok false := by
  obtain ⟨hvisited, htaken, -, ⟨hlinked, -⟩, hshown, hhidden⟩ :=
    Play.history_grows ofDraft_lighthouseDraft [.follow climb]
  have hglow : (Play.after [.follow climb] {}).isShown glow = .ok true := by decide +kernel
  have hgloom : (Play.after [.follow climb] {}).isShown gloom = .ok false := by decide +kernel
  refine ⟨ofDraft_lighthouseDraft, by decide +kernel,
    (hvisited tower).2 ⟨[], .follow climb, [], rfl, rfl⟩, ?_,
    (htaken climb).2 ⟨[], .follow climb, [], rfl, rfl⟩, hlinked, hglow, hgloom, fun more =>
    ⟨hshown glow (by simp [glow]) more hglow, hhidden gloom (by simp [gloom]) more hgloom⟩⟩
  decide +kernel

end lighthouse

end Skein
