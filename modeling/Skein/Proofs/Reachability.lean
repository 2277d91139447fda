import Mathlib.Data.List.Count
import Skein.Proofs.History
import Skein.Proofs.Search
import Skein.Story.Check

/-!
# What cannot be reached is never visited

The check of a story walks along all links, whatever they ask for, and warns of the passages that it
does not come to. Two things make such a warning worth something. It is exact: the walk comes to a
passage if and only if a way of links leads there. And it is sound for playing: whoever begins at
the start and keeps to dialogs comes to no other passage.

The second is an invariant of runs. A passage is visited because it is the start or because a link
was taken to it, and a dialog takes links out of the passage that it presents; so a way of links
that were taken leads to every visited passage, as long as every dialog at hand presents a passage
that was visited (`Play.IsTraced`). Confirmations that fail are no exception, because they mark the
link and its target before anything can go wrong.

Hosts that enter passages directly, or make up a dialog, go wherever they like, so runs have to keep
to dialogs that were handed out in them. Everything else is allowed: several dialogs side by side,
old ones, and changes of the player.

## Main definitions

* `Story.CanReach` — a way of links leads from one passage to another
* `Play.Led` — a link that was taken leads from one passage to another
* `Operation.dialogs`, `Play.dialogs` — the dialogs that are handed out
* `Operation.KeepsTo`, `Play.KeepsTo` — passages are entered through dialogs at hand only
* `Play.IsTraced` — links that were taken lead to every visited passage

## Main results

* `Story.mem_reachable_iff` — the walk finds the passages that a way of links leads to
* `Story.filter_warnings`, `Story.count_message_warnings` — which passages are warned of
* `Play.IsTraced.run`, `Play.IsTraced.after` — the invariant of runs
* `Story.unreachable_never_visited` — the warnings are exact, and sound for playing
-/

namespace Skein

/-! ### Ways of links -/

namespace Story

variable {s : Story} {start p q : s.PassageId}

/-- Some link leads from one passage to another, whatever it asks for. -/
def Leads (s : Story) (p q : s.PassageId) : Prop :=
  ∃ l, (s.link l).source = p ∧ (s.link l).target = q

/-- A way of links leads from one passage to another. -/
def CanReach (s : Story) : s.PassageId → s.PassageId → Prop :=
  Relation.ReflTransGen s.Leads

theorem mem_successors : q ∈ s.successors p ↔ s.Leads p q := by
  simp [successors, Leads]

/-- **The walk finds the passages that a way of links leads to.** -/
theorem mem_reachable_iff : p ∈ s.reachable start ↔ s.CanReach start p := by
  have hrel : (fun p q => q ∈ s.successors p) = s.Leads := by
    funext p q
    exact propext mem_successors
  have hwalk : s.reachable start = walk s.successors [start] s.passageIds := rfl
  rw [hwalk, mem_walk_iff mem_passageIds, hrel]
  simp [CanReach]

instance (start : s.PassageId) : DecidablePred (s.CanReach start) := fun _ =>
  decidable_of_iff _ mem_reachable_iff

end Story

/-! ### Warnings -/

namespace Warning

/-- A warning of a passage that cannot be reached. -/
def isUnreachable : Warning → Bool
  | unreachable _ _ => true
  | _ => false

/-- The wordings of these warnings are told from all others by their last character. -/
theorem getLast?_message_iff (w : Warning) :
    w.message.toList.getLast? = some '\'' ↔ w.isUnreachable = true := by
  cases w with
  | unreachable passage start =>
    simp only [message, String.toList_append, List.getLast?_append, isUnreachable]
    simp
  | noStart => simp [message, isUnreachable]
  | deadEnd passage =>
    simp only [message, String.toList_append, List.getLast?_append, isUnreachable]
    simp
  | orphan passage =>
    simp only [message, String.toList_append, List.getLast?_append, isUnreachable]
    simp

end Warning

namespace Story

variable {s : Story} {start p : s.PassageId}

/-- The warning that a passage cannot be reached from the start. -/
def unreachable (s : Story) (start p : s.PassageId) : Warning :=
  .unreachable (s.passage p).title (s.passage start).title

theorem reachabilityWarnings_some (s : Story) (start : s.PassageId) :
    s.reachabilityWarnings (some start) =
      (s.passageIds.filter fun p => ¬s.CanReach start p).map (s.unreachable start) := by
  have hfound : ∀ p, (!(s.reachable start).contains p) = decide ¬s.CanReach start p := by
    intro p
    simp [← mem_reachable_iff]
  simp only [reachabilityWarnings, hfound]
  rfl

/-- No warning about a single passage is about how it is reached. -/
theorem isUnreachable_of_mem_passageWarnings {w : Warning} (h : w ∈ s.passageWarnings p) :
    w.isUnreachable = false := by
  simp only [passageWarnings, List.mem_append] at h
  rcases h with h | h
  · split at h <;> simp_all [Warning.isUnreachable]
  · split at h <;> simp_all [Warning.isUnreachable]

/-- **The passages that are warned of**, in script order and each once. -/
theorem filter_warnings (s : Story) (start : s.PassageId) :
    (s.warnings (some start)).filter Warning.isUnreachable =
      (s.passageIds.filter fun p => ¬s.CanReach start p).map (s.unreachable start) := by
  have hothers : (s.passageIds.flatMap s.passageWarnings).filter Warning.isUnreachable = [] := by
    refine List.filter_eq_nil_iff.2 fun w hw => ?_
    obtain ⟨p, -, hp⟩ := List.mem_flatMap.1 hw
    simp [isUnreachable_of_mem_passageWarnings hp]
  rw [warnings, List.filter_append, hothers, List.append_nil, reachabilityWarnings_some]
  refine List.filter_eq_self.2 fun w hw => ?_
  obtain ⟨p, -, rfl⟩ := List.mem_map.1 hw
  rfl

/-- No two passages are warned of in the same words. -/
theorem message_unreachable_injective (s : Story) (start : s.PassageId) :
    Function.Injective (Warning.message ∘ s.unreachable start) := by
  intro p q h
  have htitle : (s.passage p).title = (s.passage q).title := by
    simpa [unreachable, Warning.message] using h
  have hp := passageId?_eq_some_iff.2 htitle
  have hq := passageId?_eq_some_iff.2 (rfl : (s.passage q).title = (s.passage q).title)
  exact Option.some.inj (hp.symm.trans hq)

/-- The warning of a passage has the wording of no other kind of warning. -/
theorem count_message_filter (s : Story) (start p : s.PassageId) (ws : List Warning) :
    (ws.map Warning.message).count (s.unreachable start p).message =
      ((ws.filter Warning.isUnreachable).map Warning.message).count
        (s.unreachable start p).message := by
  rw [List.count_eq_countP, List.countP_map, List.count_eq_countP, List.countP_map,
    List.countP_filter]
  refine List.countP_congr fun w _ => ?_
  simp only [Function.comp_apply, beq_iff_eq, Bool.and_eq_true, iff_self_and]
  intro hw
  rw [← Warning.getLast?_message_iff, hw, Warning.getLast?_message_iff]
  rfl

/-- **How often a passage is warned of**, told by the wordings: once if no way leads to it, and
otherwise never. -/
theorem count_message_warnings (s : Story) (start p : s.PassageId) :
    ((s.warnings (some start)).map Warning.message).count (s.unreachable start p).message =
      if s.CanReach start p then 0 else 1 := by
  have hnodup : (s.passageIds.filter fun p => ¬s.CanReach start p).Nodup :=
    (List.nodup_finRange _).filter _
  have hinjective := List.count_map_of_injective (s.passageIds.filter fun p => ¬s.CanReach start p)
    (Warning.message ∘ s.unreachable start) (s.message_unreachable_injective start) p
  rw [count_message_filter, filter_warnings, List.map_map]
  refine hinjective.trans ?_
  rw [hnodup.count]
  by_cases h : s.CanReach start p
  · simp [h]
  · simp [h]

end Story

/-! ### Dialogs at hand -/

variable {s : Story}

/-- The dialogs that an answer hands out. -/
def Answer.dialogs : Answer s → List (Dialog s)
  | begun d => d.toList
  | confirmed _ d => [d]
  | moved d => [d]
  | _ => []

namespace Operation

/-- The dialogs that an operation hands out; if it fails there are none. -/
def dialogs (op : Operation s) (play : Play s) : List (Dialog s) :=
  match (op.run play).result with
  | .ok answer => answer.dialogs
  | .error _ => []

/-- An operation enters no passage but by beginning and through dialogs at hand, and it leaves the
start as it is. -/
def KeepsTo (held : List (Dialog s)) : Operation s → Prop
  | visit _ | follow _ | setStart _ => False
  | confirm d | next d | previous d | select d _ | options d | isFinished d => d ∈ held
  | _ => True

theorem exists_answer_of_mem_dialogs {op : Operation s} {play : Play s} {d : Dialog s}
    (h : d ∈ op.dialogs play) :
    ∃ answer, (op.run play).result = .ok answer ∧ d ∈ answer.dialogs := by
  rw [dialogs] at h
  split at h
  · next answer hanswer => exact ⟨answer, hanswer, h⟩
  · cases h

end Operation

namespace Dialog

variable {d moved : Dialog s} {play : Play s}

/-- A movement of the cursor stays in the passage. -/
theorem passage_moveCursor {move : Nat → Nat → Nat} (h : d.moveCursor move play = .ok moved) :
    moved.passage = d.passage := by
  obtain ⟨links, -, hmoved⟩ := bind_eq_ok.1 h
  obtain rfl := Except.ok.inj hmoved
  rfl

/-- The link at the cursor of a dialog leads out of the passage that is presented. -/
theorem source_of_selected {l : s.LinkId} (h : d.selected? play = some l) :
    (s.link l).source = d.passage := by
  obtain ⟨links, hlinks, hl⟩ := Option.bind_eq_some_iff.1 h
  have hmem := (sublist_of_select (toOption_eq_some.1 hlinks)).subset (List.mem_of_getElem? hl)
  exact Story.mem_linksFrom.1 hmem

/-- After a confirmation a dialog presents the target of the link that was selected, or still the
same passage. -/
theorem passage_confirm (d : Dialog s) (play : Play s) :
    (∃ l, d.selected? play = some l ∧ (d.confirm play).2.passage = (s.link l).target) ∨
      (d.confirm play).2.passage = d.passage := by
  cases hselected : d.selected? play with
  | none => exact .inr (congrArg passage (play_confirm_of_not_selected hselected).2)
  | some l =>
    rw [confirm_of_selected hselected]
    cases hresult : (play.follow l).result with
    | error e => exact .inr rfl
    | ok target =>
      obtain ⟨-, -, rfl⟩ := map_eq_ok.1 hresult
      exact .inl ⟨l, rfl, rfl⟩

end Dialog

/-- **A dialog that is handed out** presents the passage that was just entered, or the passage of a
dialog at hand. -/
theorem Operation.passage_of_mem_dialogs {op : Operation s} {play : Play s}
    {held : List (Dialog s)} (hop : op.KeepsTo held) {d : Dialog s} (h : d ∈ op.dialogs play) :
    op.deed? play = some (.enter d.passage) ∨ ∃ other ∈ held, d.passage = other.passage := by
  obtain ⟨answer, hresult, hd⟩ := exists_answer_of_mem_dialogs h
  have hmoved : ∀ {move : Nat → Nat → Nat} {used : Dialog s}, used ∈ held →
      (used.moveCursor move play).map Answer.moved = .ok answer →
      ∃ other ∈ held, d.passage = other.passage := by
    intro move used hused hresult
    obtain ⟨moved, hmove, rfl⟩ := map_eq_ok.1 hresult
    obtain rfl := List.mem_singleton.1 hd
    exact ⟨used, hused, Dialog.passage_moveCursor hmove⟩
  cases op with
  | visit p => cases hop
  | follow l => cases hop
  | setStart title => cases hop
  | begin =>
    obtain ⟨begun, hbegun, rfl⟩ := map_eq_ok.1 hresult
    rw [Dialog.begin] at hbegun
    cases hstart : play.start with
    | none =>
      rw [hstart] at hbegun
      obtain rfl := Except.ok.inj hbegun
      cases hd
    | some p =>
      rw [hstart] at hbegun
      obtain ⟨-, -, rfl⟩ := map_eq_ok.1 hbegun
      obtain rfl := List.mem_singleton.1 hd
      exact .inl (by rw [deed?, hstart]; rfl)
  | confirm used =>
    obtain ⟨target, -, rfl⟩ := map_eq_ok.1 hresult
    obtain rfl := List.mem_singleton.1 hd
    rcases used.passage_confirm play with ⟨l, hl, hpassage⟩ | hpassage
    · exact .inl (by rw [deed?, hl, hpassage]; rfl)
    · exact .inr ⟨used, hop, hpassage⟩
  | next used => exact .inr (hmoved hop hresult)
  | previous used => exact .inr (hmoved hop hresult)
  | select used index => exact .inr (hmoved hop hresult)
  | listen =>
    obtain rfl := Except.ok.inj hresult
    cases hd
  | _ =>
    obtain ⟨_, -, rfl⟩ := map_eq_ok.1 hresult
    cases hd

theorem Play.start_visit (p : s.PassageId) (play : Play s) :
    (play.visit p).play.start = play.start := by
  rw [visit, performAll_frame]
  rfl

namespace Operation

variable {op : Operation s} {held : List (Dialog s)} {play : Play s}

/-- The start stays as it is. -/
theorem start_run (hop : op.KeepsTo held) (play : Play s) :
    (op.run play).play.start = play.start := by
  cases op with
  | visit p => cases hop
  | follow l => cases hop
  | setStart title => cases hop
  | change c =>
    show (play.change c).play.start = play.start
    rw [Play.change_frame]
  | perform e =>
    show (play.perform e).play.start = play.start
    rw [Play.perform_frame]
  | begin =>
    show (Dialog.begin play).play.start = play.start
    rw [Dialog.begin]
    split
    · rfl
    · exact play.start_visit _
  | confirm d =>
    show (d.confirm play).1.play.start = play.start
    cases hselected : d.selected? play with
    | none => rw [(Dialog.play_confirm_of_not_selected hselected).1]
    | some l =>
      rw [Dialog.confirm_of_selected hselected]
      exact (play.markTaken l).start_visit (s.link l).target
  | _ => rfl

/-- **To enter a passage** is to begin in it, or to take a link to it out of the passage of a dialog
at hand. -/
theorem start_or_taken_of_enter (hop : op.KeepsTo held) {p : s.PassageId}
    (h : op.deed? play = some (.enter p)) :
    play.start = some p ∨
      ∃ l, op.taken? play = some l ∧ (s.link l).target = p ∧
        ∃ d ∈ held, d.passage = (s.link l).source := by
  cases op with
  | visit q => cases hop
  | follow l => cases hop
  | begin =>
    obtain ⟨q, hstart, hq⟩ := Option.map_eq_some_iff.1 h
    obtain rfl := Deed.enter.inj hq
    exact .inl hstart
  | confirm d =>
    obtain ⟨l, hl, htarget⟩ := Option.map_eq_some_iff.1 h
    exact .inr ⟨l, hl, Deed.enter.inj htarget, d, hop, (Dialog.source_of_selected hl).symm⟩
  | perform e =>
    obtain ⟨c, -, hc⟩ := Option.map_eq_some_iff.1 h
    cases hc
  | _ => cases h

end Operation

/-! ### Runs -/

namespace Play

/-- A link that was taken leads from one passage to another. -/
def Led (play : Play s) (p q : s.PassageId) : Prop :=
  ∃ l, play.taken.get l = true ∧ (s.link l).source = p ∧ (s.link l).target = q

theorem Led.leads {play : Play s} {p q : s.PassageId} (h : play.Led p q) : s.Leads p q := by
  obtain ⟨l, -, hsource, htarget⟩ := h
  exact ⟨l, hsource, htarget⟩

/-- The dialogs that a run hands out, in order. -/
def dialogs : List (Operation s) → Play s → List (Dialog s)
  | [], _ => []
  | op :: ops, play => op.dialogs play ++ dialogs ops (op.run play).play

/-- A run enters no passage but by beginning and through dialogs at hand, which are those that are
given and those that were handed out before in the run. -/
def KeepsTo (held : List (Dialog s)) : List (Operation s) → Play s → Prop
  | [], _ => True
  | op :: ops, play => op.KeepsTo held ∧ KeepsTo (held ++ op.dialogs play) ops (op.run play).play

/-- **Links that were taken lead from the start to every visited passage**, and every dialog at hand
presents a visited passage. -/
structure IsTraced (start : s.PassageId) (held : List (Dialog s)) (play : Play s) : Prop where
  start_eq : play.start = some start
  reached : ∀ p, play.visited.get p = true → Relation.ReflTransGen play.Led start p
  presented : ∀ d ∈ held, play.visited.get d.passage = true

namespace IsTraced

variable {start : s.PassageId} {held : List (Dialog s)} {play : Play s}

/-- **One operation**, whether it succeeds or not. A link is marked together with its target, so a
passage that is entered has a way to it as soon as it is marked. -/
theorem run (h : play.IsTraced start held) {op : Operation s} (hop : op.KeepsTo held) :
    (op.run play).play.IsTraced start (held ++ op.dialogs play) := by
  have hvisited : ∀ p, play.visited.get p = true → (op.run play).play.visited.get p = true :=
    fun p hp => (get_visited_run op play p).2 (.inr hp)
  have hled : play.Led ≤ (op.run play).play.Led := by
    rintro p q ⟨l, hl, hends⟩
    exact ⟨l, (op.get_taken_run play l).2 (.inr hl), hends⟩
  have hways := Relation.ReflTransGen.mono hled start
  refine ⟨(op.start_run hop play).trans h.start_eq, fun p hp => ?_, fun d hd => ?_⟩
  · rcases (get_visited_run op play p).1 hp with hdeed | hp
    · rcases op.start_or_taken_of_enter hop hdeed with hstart | ⟨l, hl, htarget, d, hd, hsource⟩
      · obtain rfl := Option.some.inj (h.start_eq.symm.trans hstart)
        exact .refl
      · have htaken := (op.get_taken_run play l).2 (.inl hl)
        exact (hways _ (h.reached _ (h.presented d hd))).tail ⟨l, htaken, hsource.symm, htarget⟩
    · exact hways p (h.reached p hp)
  · rcases List.mem_append.1 hd with hd | hd
    · exact hvisited _ (h.presented d hd)
    · rcases op.passage_of_mem_dialogs hop hd with hdeed | ⟨other, hother, hpassage⟩
      · exact (get_visited_run op play _).2 (.inl hdeed)
      · rw [hpassage]
        exact hvisited _ (h.presented other hother)

/-- **A run.** -/
theorem after (h : play.IsTraced start held) {ops : List (Operation s)}
    (hops : KeepsTo held ops play) :
    (play.after ops).IsTraced start (held ++ dialogs ops play) := by
  induction ops generalizing play held with
  | nil => simpa [dialogs, Play.after] using h
  | cons op ops ih =>
    obtain ⟨hop, hops⟩ := hops
    rw [after_cons, dialogs, ← List.append_assoc]
    exact ih (h.run hop) hops

end IsTraced

end Play

/-- **What is warned of is never visited.** For a story that begins at `start`, the check warns of
exactly the passages to which no way of links leads from there, in script order; told by its
wording, there is one such warning for each of these passages and none for any other. In every run
that enters passages by beginning and through dialogs that it was handed, from a playthrough in
which nothing was visited, links that were taken lead from the start to every visited passage; so
none of these is warned of. And every dialog that was handed out presents a visited passage. -/
theorem Story.unreachable_never_visited (s : Story) (start : s.PassageId) :
    (s.warnings (some start)).filter Warning.isUnreachable =
      (s.passageIds.filter fun p => ¬s.CanReach start p).map (s.unreachable start) ∧
    (∀ p, ((s.warnings (some start)).map Warning.message).count (s.unreachable start p).message =
      if s.CanReach start p then 0 else 1) ∧
    ∀ (play : Play s) (ops : List (Operation s)), play.start = some start →
      (∀ p, play.visited.get p = false) → Play.KeepsTo [] ops play →
      (∀ p, (play.after ops).visited.get p = true →
        Relation.ReflTransGen (play.after ops).Led start p ∧
          (s.unreachable start p).message ∉ (s.warnings (some start)).map Warning.message) ∧
      ∀ d ∈ Play.dialogs ops play, (play.after ops).visited.get d.passage = true := by
  refine ⟨s.filter_warnings start, s.count_message_warnings start,
    fun play ops hstart hnew hops => ?_⟩
  have hbegin : play.IsTraced start [] :=
    ⟨hstart, fun p hp => by simp [hnew p] at hp, fun d hd => by cases hd⟩
  have hafter := hbegin.after hops
  refine ⟨fun p hp => ⟨hafter.reached p hp, ?_⟩, fun d hd => hafter.presented d hd⟩
  have hreach : s.CanReach start p :=
    Relation.ReflTransGen.mono (fun _ _ => Play.Led.leads) start p (hafter.reached p hp)
  rw [← List.count_eq_zero, s.count_message_warnings start, if_pos hreach]

/-! ### A strait -/

/-- A ferry that has to be paid for crosses a strait. From the lighthouse a way leads to the shore,
but none leads to it. -/
def strait : Story where
  title := ""
  passages := [⟨"Shore", "", [], [], false⟩, ⟨"Ferry", "", [], [⟨.takeMoney, "5"⟩], false⟩,
    ⟨"Island", "", [], [], false⟩, ⟨"Lighthouse", "", [], [], false⟩]
  links := [⟨0, 1, "Board", [], []⟩, ⟨1, 2, "Land", [⟨true, .hasItem, "pass"⟩], []⟩,
    ⟨3, 0, "Go down", [], []⟩]
  titles_nodup := by decide

namespace strait

/-- The passage in which the story begins. -/
def shore : strait.PassageId := ⟨0, by decide⟩

/-- The passage with the fee. -/
def ferry : strait.PassageId := ⟨1, by decide⟩

/-- The passage to which no link leads. -/
def tower : strait.PassageId := ⟨3, by decide⟩

/-- Nothing has happened yet. -/
def opened : Play strait := { start := some shore }

/-- The ferry is boarded without money, and again with money. -/
def crossing : List (Operation strait) :=
  [.begin, .confirm ⟨shore, 0⟩, .change (.addMoney 9), .confirm ⟨shore, 0⟩, .next ⟨ferry, 0⟩,
    .confirm ⟨ferry, 0⟩]

/-- No way of links leads to the lighthouse, because no link leads there. -/
theorem not_canReach_tower : ¬strait.CanReach shore tower := by
  intro h
  have hnone : ∀ l, (strait.link l).target ≠ tower := by decide
  rcases Relation.ReflTransGen.cases_tail h with heq | ⟨p, -, l, -, htarget⟩
  · exact absurd heq (by decide)
  · exact hnone l htarget

/-- **The lighthouse is warned of**, and whoever crosses the strait does not come to it. The ferry
was visited, although that failed at first; the link to it was taken, and it is not warned of. -/
theorem unreachable_never_visited_crossing :
    Play.KeepsTo [] crossing opened ∧
    ((strait.warnings (some shore)).map Warning.message).count
      "Passage 'Lighthouse' is not reachable from 'Shore'" = 1 ∧
    (opened.after crossing).visited.get ferry = true ∧
    Relation.ReflTransGen (opened.after crossing).Led shore ferry ∧
    "Passage 'Ferry' is not reachable from 'Shore'" ∉
      (strait.warnings (some shore)).map Warning.message ∧
    (opened.after crossing).visited.get tower = false := by
  have hkeeps : Play.KeepsTo [] crossing opened := by
    refine ⟨trivial, .head _, trivial, .head _, ?_, ?_, trivial⟩
    · exact List.mem_append_right _ (.head _)
    · exact List.mem_append_right _ (.head _)
  obtain ⟨-, hcount, hruns⟩ := Story.unreachable_never_visited strait shore
  obtain ⟨hvisited, -⟩ := hruns opened crossing rfl (by decide) hkeeps
  have htower := (hcount tower).trans (if_neg not_canReach_tower)
  have hferry : (opened.after crossing).visited.get ferry = true := by decide +kernel
  obtain ⟨hway, hsilent⟩ := hvisited ferry hferry
  refine ⟨hkeeps, htower, hferry, hway, hsilent, Bool.eq_false_iff.2 fun h => ?_⟩
  exact (hvisited tower h).2 (List.count_pos_iff.1 (by rw [htower]; decide))

end strait

end Skein
