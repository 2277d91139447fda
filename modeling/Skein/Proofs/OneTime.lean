import Skein.Proofs.Deeds
import Skein.Proofs.Success

/-!
# One-time passages are entered once

A link to a one-time passage is no longer offered once the passage was visited, and the mark of the
visit is set before anything can fail. So of all the ways into a passage the dialogs are the careful
one: what they confirm was offered at that moment, and therefore leads to no one-time passage that
was visited before, wherever the cursor comes from and whichever dialog is asked. The start of a
dialog is not careful, but it comes first.

Hosts can also enter passages and take links directly. Nothing is promised about runs in which they
do that, or in which they begin a second time.

## Main definitions

* `Operation.isForced` — operations that enter a passage without asking whether it is offered

## Main results

* `Play.visited_eq_false_of_mem_offered` — no offer leads to a one-time passage that was visited
* `Play.count_enter_le` — how often a one-time passage is entered by what is not forced
* `Play.count_enter_begin_le_one` — a one-time passage is entered at most once
-/

namespace Skein

variable {s : Story}

/-- Operations that enter a passage without asking whether it is offered. -/
def Operation.isForced : Operation s → Bool
  | visit _ | follow _ | begin => true
  | _ => false

/-! ### Offers -/

namespace Play

variable {play : Play s} {p : s.PassageId}

/-- **No offer leads to a one-time passage that was visited.** -/
theorem visited_eq_false_of_mem_offered {source : s.PassageId} {links : List s.LinkId}
    (h : play.offered source = .ok links) {l : s.LinkId} (hl : l ∈ links)
    (honce : (s.passage (s.link l).target).isOneTime = true) :
    play.visited.get (s.link l).target = false := by
  have hoffered := eq_true_of_mem_select h l hl
  rw [isOffered, honce, Bool.true_and] at hoffered
  cases hvisited : play.visited.get (s.link l).target with
  | false => rfl
  | true =>
    rw [hvisited] at hoffered
    cases hoffered

/-- What is not forced enters a one-time passage only if it was not visited. -/
theorem visited_eq_false_of_deed? {op : Operation s} (hop : op.isForced = false)
    (honce : (s.passage p).isOneTime = true) (hdeed : op.deed? play = some (.enter p)) :
    play.visited.get p = false := by
  cases op with
  | confirm d =>
    obtain ⟨l, hselected, hl⟩ := Option.map_eq_some_iff.1 hdeed
    obtain rfl := Deed.enter.inj hl
    obtain ⟨links, hlinks, hcursor⟩ := Option.bind_eq_some_iff.1 hselected
    exact visited_eq_false_of_mem_offered (toOption_eq_some.1 hlinks)
      (List.mem_of_getElem? hcursor) honce
  | visit q => cases hop
  | follow l => cases hop
  | begin => cases hop
  | perform e =>
    obtain ⟨c, -, hc⟩ := Option.map_eq_some_iff.1 hdeed
    cases hc
  | _ => cases hdeed

/-! ### Runs -/

/-- A passage that is entered only while it is not visited: one operation of a run. -/
theorem count_enter_cons_le {op : Operation s} {ops : List (Operation s)}
    (hfirst : op.deed? play = some (.enter p) → play.visited.get p = false)
    (hrest : (deeds ops (op.run play).play).count (.enter p) ≤
      if (op.run play).play.visited.get p then 0 else 1) :
    (deeds (op :: ops) play).count (.enter p) ≤ if play.visited.get p then 0 else 1 := by
  rw [deeds, List.count_append]
  by_cases hdeed : op.deed? play = some (.enter p)
  · -- The passage is marked by being entered, and the rest of the run does not enter it again.
    have hafter := (get_visited_run op play p).2 (.inl hdeed)
    rw [hafter, if_pos rfl] at hrest
    rw [hfirst hdeed, hdeed, Nat.le_zero.1 hrest]
    simp
  · have hsame : (op.run play).play.visited.get p = play.visited.get p := by
      rw [Bool.eq_iff_iff, get_visited_run, or_iff_right hdeed]
    have hnone : (op.deed? play).toList.count (.enter p) = 0 :=
      List.count_eq_zero.2 fun hmem => hdeed (Option.mem_toList.1 hmem)
    rw [hnone, Nat.zero_add, ← hsame]
    exact hrest

/-- **A one-time passage is entered at most once by what is not forced**, and not at all if it was
visited before. -/
theorem count_enter_le {ops : List (Operation s)} (hops : ∀ op ∈ ops, op.isForced = false)
    (honce : (s.passage p).isOneTime = true) (play : Play s) :
    (deeds ops play).count (.enter p) ≤ if play.visited.get p then 0 else 1 := by
  induction ops generalizing play with
  | nil => exact Nat.zero_le _
  | cons op ops ih =>
    obtain ⟨hop, hops⟩ := List.forall_mem_cons.1 hops
    exact count_enter_cons_le (visited_eq_false_of_deed? hop honce) (ih hops _)

/-- **A one-time passage is entered at most once.** Let nothing be visited yet, and let the story
begin. Whatever is done then, except to force an entry, no one-time passage is entered twice: not
by confirming any dialogs, the one that was begun among them, if confirmations fail or not, and
not if the player is changed between them. And to be entered, or to be changed from outside, is all
that happens to passages and to the player, so the effects of the passage begin at most once. -/
theorem count_enter_begin_le_one {play : Play s} (hnew : ∀ p, play.visited.get p = false)
    {ops : List (Operation s)} (hops : ∀ op ∈ ops, op.isForced = false) {p : s.PassageId}
    (honce : (s.passage p).isOneTime = true) :
    (deeds (.begin :: ops) play).count (.enter p) ≤ 1 ∧
    (play.after (.begin :: ops)).Agrees ((deeds (.begin :: ops) play).foldl Deed.apply play) := by
  have hcount := count_enter_cons_le (fun _ => hnew p)
    (count_enter_le hops honce (Operation.begin.run play).play)
  rw [hnew p] at hcount
  exact ⟨hcount, after_agrees _ play⟩

end Play

/-! ### A cave -/

/-- A gate with two ways into a cave that asks for a fee. Both can be passed once, and each has a
way to itself. -/
def caveStory : Story where
  title := ""
  passages := [⟨"Gate", "", [], [], true⟩, ⟨"Cave", "", [], [⟨.takeMoney, "5"⟩], true⟩]
  links := [⟨0, 1, "Go in", [], []⟩, ⟨0, 1, "Climb down", [], []⟩, ⟨0, 0, "Wait", [], []⟩,
    ⟨1, 1, "Go on", [], []⟩]
  titles_nodup := by decide

namespace caveStory

/-- Nothing has happened yet; the story begins at the gate. -/
def opened : Play caveStory := { start := some ⟨0, by decide⟩ }

/-- The cave. -/
def cave : caveStory.PassageId := ⟨1, by decide⟩

/-- The options at the gate, with the cursor on the first one or on the second. -/
def atGate (cursor : Nat) : Dialog caveStory := ⟨⟨0, by decide⟩, cursor⟩

/-- One way into the cave is tried without money. After that money is at hand, and the other way is
tried, and the first one again. -/
def tries : List (Operation caveStory) :=
  [.confirm (atGate 0), .change (.addMoney 9), .next (atGate 0), .confirm (atGate 1),
    .confirm (atGate 0)]

/-- **The cave is entered once**, with a visit that fails. No option is left at the gate after that,
so the money that arrives later is not asked for. -/
theorem count_enter_begin_le_one_cave :
    (∀ p, opened.visited.get p = false) ∧ (∀ op ∈ tries, op.isForced = false) ∧
    (caveStory.passage cave).isOneTime = true ∧
    (Play.deeds (.begin :: tries) opened).count (.enter cave) ≤ 1 ∧
    (opened.after (.begin :: tries)).player = ⟨9, [], []⟩ ∧
    Play.deeds (.begin :: tries) opened =
      [.enter ⟨0, by decide⟩, .enter cave, .change (.addMoney 9)] := by
  have hnew : ∀ p, opened.visited.get p = false := by decide
  have hops : ∀ op ∈ tries, op.isForced = false := by decide
  have honce : (caveStory.passage cave).isOneTime = true := by decide
  have hdeeds : Play.deeds (.begin :: tries) opened =
      [.enter ⟨0, by decide⟩, .enter cave, .change (.addMoney 9)] := by decide +kernel
  obtain ⟨hcount, hagrees⟩ := Play.count_enter_begin_le_one hnew hops honce
  refine ⟨hnew, hops, honce, hcount, hagrees.player.trans ?_, hdeeds⟩
  rw [hdeeds]
  decide +kernel

end caveStory

end Skein
