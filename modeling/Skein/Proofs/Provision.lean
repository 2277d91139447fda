import Skein.Proofs.FirstMentions
import Skein.Proofs.History
import Skein.Proofs.Holdings

/-!
# Where everything comes from

The check of a story reports the items and facts that conditions ask for and that no effect
provides. It looks at no playthrough for that: it collects the effects of all passages, whether they
can be reached or not, and whether a visit comes as far as to them. So it may well fail to notice
that something cannot be had. What it does report is right: the player never has such a thing, and
whatever asks for it is never shown and never offered.

The argument follows the thing back to its source. A player has nothing that was not given, and what
is given comes from an effect of the passage that is entered, or from outside. So whatever the
player has, and was not given from outside, some passage that was visited provides
(`Play.HasSource`). That is an invariant of runs, failed visits included, because a visit that fails
gives only what the effects in front of the failing one give.

The empty name is left out of this. The check reports it wherever it is asked for, because it counts
effects without a name for nothing; but they take place nevertheless.

## Main definitions

* `Player.has` — whether the player has what a condition asks for by name
* `Change.gift?`, `Operation.gift?` — what a change gives, and what a host gives from outside
* `Play.HasSource` — if the player has something, a visited passage provides it

## Main results

* `Play.HasSource.run`, `Play.HasSource.after` — the invariant of runs
* `Story.not_provides_of_mem_defects` — what is reported is not provided
* `Play.lacks_unprovided` — what is reported is never had, shown for or offered for
-/

namespace Skein

variable {kind : Condition.Kind} {name : String}

/-! ### What a player has -/

/-- Whether the player has what a kind of condition asks for by name. Money has no name. -/
def Player.has (p : Player) (kind : Condition.Kind) (name : String) : Bool :=
  match kind with
  | .hasItem => p.hasItem name
  | .fact => p.hasFact name
  | .hasMoney => false

/-- What a change gives to the player, by the kind of condition that asks for it. -/
def Change.gift? : Change → Option (Condition.Kind × String)
  | addItem name => some (.hasItem, name)
  | addFact fact => some (.fact, fact)
  | takeItem _ | addMoney _ | takeMoney _ => none

namespace Player

/-- A change adds at most one name to the items. -/
theorem mem_items_change {p q : Player} {c : Change} (h : p.change c = .ok q)
    (hname : name ∈ q.items.map Item.name) : c = .addItem name ∨ name ∈ p.items.map Item.name := by
  cases c with
  | addItem given =>
    obtain rfl := Except.ok.inj h
    rw [addItem, Items.map_name_add] at hname
    split at hname
    · exact .inr hname
    · rcases List.mem_append.1 hname with hname | hname
      · exact .inr hname
      · exact .inl (congrArg Change.addItem (List.mem_singleton.1 hname).symm)
  | takeItem taken =>
    obtain rfl := Except.ok.inj h
    cases hremove : Items.remove? taken p.items with
    | none =>
      rw [takeItem_of_none hremove] at hname
      exact .inr hname
    | some rest =>
      rw [takeItem_of_some hremove] at hname
      exact .inr ((Items.map_name_sublist_of_remove? hremove).subset hname)
  | addFact fact =>
    obtain rfl := Except.ok.inj h
    exact .inr hname
  | addMoney amount =>
    rw [addMoney_frame h] at hname
    exact .inr hname
  | takeMoney amount =>
    rw [takeMoney_frame h] at hname
    exact .inr hname

/-- **A player has nothing that was not given.** -/
theorem has_change {p q : Player} {c : Change} (h : p.change c = .ok q)
    (hhas : q.has kind name = true) : c.gift? = some (kind, name) ∨ p.has kind name = true := by
  cases kind with
  | hasItem =>
    rcases mem_items_change h (Items.hasName_iff.1 hhas) with rfl | hname
    · exact .inl rfl
    · exact .inr (Items.hasName_iff.2 hname)
  | fact =>
    rcases (mem_facts_change h).1 (List.contains_iff_mem.1 hhas) with rfl | hfact
    · exact .inl rfl
    · exact .inr (List.contains_iff_mem.2 hfact)
  | hasMoney => cases hhas

theorem has_afterEvents (p : Player) (changes : List (Except PlayError Change)) :
    (p.afterEvents (p.events changes)).has kind name = true →
      (∃ c, .ok c ∈ changes ∧ c.gift? = some (kind, name)) ∨ p.has kind name = true := by
  refine afterEvents_induction (P := fun q => q.has kind name = true →
    (∃ c, .ok c ∈ changes ∧ c.gift? = some (kind, name)) ∨ p.has kind name = true) ?_ .inr
  intro c hc q r h hq hhas
  rcases has_change h hhas with hgift | hhad
  · exact .inl ⟨c, hc, hgift⟩
  · exact hq hhad

end Player

/-! ### What a story provides -/

variable {s : Story}

/-- An effect that gives something is of the kind that provides it, and bears its name. -/
theorem Effect.eq_of_gift? {e : Effect} {c : Change} (hc : e.change = .ok c)
    (hgift : c.gift? = some (kind, name)) : ∃ k, kind.provider? = some k ∧ e = ⟨k, name⟩ := by
  obtain ⟨k, value⟩ := e
  cases k with
  | addItem =>
    obtain rfl := Except.ok.inj hc
    obtain ⟨rfl, rfl⟩ := Prod.mk.inj (Option.some.inj hgift)
    exact ⟨.addItem, rfl, rfl⟩
  | addFact =>
    obtain rfl := Except.ok.inj hc
    obtain ⟨rfl, rfl⟩ := Prod.mk.inj (Option.some.inj hgift)
    exact ⟨.addFact, rfl, rfl⟩
  | takeItem =>
    obtain rfl := Except.ok.inj hc
    cases hgift
  | addMoney =>
    obtain ⟨amount, -, rfl⟩ := map_eq_ok.1 hc
    cases hgift
  | takeMoney =>
    obtain ⟨amount, -, rfl⟩ := map_eq_ok.1 hc
    cases hgift

namespace Story

theorem provides_of_mem_changesIn {p : s.PassageId} {c : Change} (hc : .ok c ∈ s.changesIn p)
    (hgift : c.gift? = some (kind, name)) : s.Provides p kind name := by
  obtain ⟨e, he, hchange⟩ := List.mem_map.1 hc
  obtain ⟨k, hk, rfl⟩ := Effect.eq_of_gift? hchange hgift
  exact ⟨k, hk, he⟩

/-- Whatever is reported as missing was found so by looking at all effects. -/
theorem isProvided_eq_false_of_mem_defects {title : String}
    (h : Defect.unprovided title kind name ∈ s.defects) :
    ∃ k, kind.provider? = some k ∧ s.isProvided k name = false := by
  have hmissing := isUnprovided_iff.2 (isMissing_of_mem_defects h)
  rw [isUnprovided] at hmissing
  split at hmissing
  · cases hmissing
  · next k hk => exact ⟨k, hk, by simpa using hmissing⟩

/-- **What is reported as missing is not provided**, unless it has no name. -/
theorem not_provides_of_mem_defects {title : String}
    (h : Defect.unprovided title kind name ∈ s.defects) (hname : name ≠ "") (p : s.PassageId) :
    ¬s.Provides p kind name :=
  fun hprovides => hname ((isMissing_of_mem_defects h).2 p hprovides)

end Story

/-! ### What is given from outside -/

namespace Operation

/-- What an operation gives to the player from outside the story. -/
def gift? : Operation s → Option (Condition.Kind × String)
  | change c => c.gift?
  | perform e => e.change.toOption.bind Change.gift?
  | _ => none

theorem gift?_of_deed? {op : Operation s} {play : Play s} {c : Change}
    (h : op.deed? play = some (.change c)) : op.gift? = c.gift? := by
  cases op with
  | change asked =>
    obtain rfl := Deed.change.inj (Option.some.inj h)
    rfl
  | perform e =>
    obtain ⟨asked, hasked, heq⟩ := Option.map_eq_some_iff.1 h
    obtain rfl := Deed.change.inj heq
    rw [gift?, hasked]
    rfl
  | begin =>
    obtain ⟨p, -, heq⟩ := Option.map_eq_some_iff.1 h
    cases heq
  | confirm d =>
    obtain ⟨l, -, heq⟩ := Option.map_eq_some_iff.1 h
    cases heq
  | _ => cases h

end Operation

/-! ### What is asked for in vain -/

/-- A condition that asks for something by name. -/
theorem Condition.test_named {c : Condition} {provider : Effect.Kind}
    (h : c.kind.provider? = some provider) (p : Player) :
    c.test p = .ok (p.has c.kind c.value == c.positive) := by
  rw [test, answer]
  cases hkind : c.kind with
  | hasItem => rfl
  | fact => rfl
  | hasMoney =>
    rw [hkind] at h
    cases h

namespace Play

variable {play : Play s} {c : Condition}

/-- A text is not shown as long as some condition of it does not hold. -/
theorem isShown_ne_of_test (h : c.test play.player = .ok false) {segment : Segment}
    (hc : c ∈ segment.conditions) : play.isShown segment ≠ .ok true := by
  intro hshown
  have hholds := Condition.allHold_eq_ok_true_iff.1 hshown c hc
  rw [h] at hholds
  cases hholds

/-- A link is not offered as long as some condition of it does not hold. -/
theorem isOffered_ne_of_test (h : c.test play.player = .ok false) {l : s.LinkId}
    (hc : c ∈ (s.link l).conditions) : play.isOffered l ≠ .ok true := by
  intro hoffered
  rw [isOffered] at hoffered
  split at hoffered
  · cases hoffered
  · have hholds := Condition.allHold_eq_ok_true_iff.1 hoffered c hc
    rw [h] at hholds
    cases hholds

/-- A passage shows what it would show without the texts of which some condition does not hold. -/
theorem content_of_test (h : c.test play.player = .ok false) {p : s.PassageId} {text : String}
    (htext : play.content p = .ok text) :
    ∃ shown, select play.isShown ((s.passage p).segments.filter fun segment =>
        c ∉ segment.conditions) = .ok shown ∧
      String.join (shown.map Segment.text) = text := by
  obtain ⟨shown, hshown, hjoin⟩ := content_eq_ok_iff.1 htext
  refine ⟨shown, select_filter hshown fun segment _ hsegment => ?_, hjoin⟩
  exact decide_eq_true fun hc => isShown_ne_of_test h hc hsegment

end Play

/-! ### Runs -/

namespace Play

/-- **If the player has something, a passage that was visited provides it.** -/
def HasSource (kind : Condition.Kind) (name : String) (play : Play s) : Prop :=
  play.player.has kind name = true →
    ∃ p, play.visited.get p = true ∧ s.Provides p kind name

namespace HasSource

variable {play : Play s}

/-- A visit gives what effects of its passage give, if it comes as far as to them. -/
theorem apply (h : play.HasSource kind name) {d : Deed s}
    (hd : ∀ c, d = .change c → c.gift? ≠ some (kind, name)) :
    (d.apply play).HasSource kind name := by
  intro hhas
  have hbefore : play.player.has kind name = true →
      ∃ p, (d.apply play).visited.get p = true ∧ s.Provides p kind name := by
    intro hhad
    obtain ⟨p, hp, hprovides⟩ := h hhad
    exact ⟨p, by rw [Deed.get_visited_apply, hp, Bool.or_true], hprovides⟩
  cases d with
  | enter p =>
    rw [Deed.apply, (play.visit_replays p).player] at hhas
    rcases play.player.has_afterEvents _ hhas with ⟨c, hc, hgift⟩ | hhad
    · have hvisited : ((Deed.enter p).apply play).visited.get p = true := by
        simp [Deed.get_visited_apply]
      exact ⟨p, hvisited, Story.provides_of_mem_changesIn hc hgift⟩
    · exact hbefore hhad
  | change c =>
    rw [Deed.apply, (play.change_replays c).player] at hhas
    rcases play.player.has_afterEvents _ hhas with ⟨asked, hasked, hgift⟩ | hhad
    · obtain rfl := Except.ok.inj (List.mem_singleton.1 hasked)
      exact absurd hgift (hd asked rfl)
    · exact hbefore hhad

/-- **One operation**, whether it succeeds or not. -/
theorem run (h : play.HasSource kind name) {op : Operation s} (hop : op.gift? ≠ some (kind, name)) :
    (op.run play).play.HasSource kind name := by
  have hdeed : ((op.deed? play).toList.foldl Deed.apply play).HasSource kind name := by
    cases hd : op.deed? play with
    | none => exact h
    | some d =>
      refine h.apply fun c hc => ?_
      rw [← Operation.gift?_of_deed? (hd.trans (congrArg some hc))]
      exact hop
  have hagrees := op.run_agrees play
  rw [HasSource, hagrees.player, hagrees.visited]
  exact hdeed

/-- **A run.** -/
theorem after (h : play.HasSource kind name) {ops : List (Operation s)}
    (hops : ∀ op ∈ ops, op.gift? ≠ some (kind, name)) : (play.after ops).HasSource kind name := by
  induction ops generalizing play with
  | nil => exact h
  | cons op ops ih =>
    obtain ⟨hop, hops⟩ := List.forall_mem_cons.1 hops
    exact ih (h.run hop) hops

end HasSource

/-- **What is reported as missing is never had.** Let the check of a story report that something
with a name is never provided, and let the player not have it. Then the player does not have it
after any run in which it is not given from outside, failed operations included. Every condition
that asks for it is judged accordingly: it holds if it is negative, and only then. No text with the
positive condition is shown, so what a passage shows is what it would show without these texts; and
no link with the positive condition is offered. -/
theorem lacks_unprovided {title : String} (h : Defect.unprovided title kind name ∈ s.defects)
    (hname : name ≠ "") {play : Play s} (hnew : play.player.has kind name = false)
    {ops : List (Operation s)} (hops : ∀ op ∈ ops, op.gift? ≠ some (kind, name)) :
    (play.after ops).player.has kind name = false ∧
    (∀ positive, Condition.test ⟨positive, kind, name⟩ (play.after ops).player =
      .ok (!positive)) ∧
    (∀ segment, ⟨true, kind, name⟩ ∈ Segment.conditions segment →
      (play.after ops).isShown segment ≠ .ok true) ∧
    (∀ p text, (play.after ops).content p = .ok text →
      ∃ shown, select (play.after ops).isShown ((s.passage p).segments.filter fun segment =>
          ⟨true, kind, name⟩ ∉ segment.conditions) = .ok shown ∧
        String.join (shown.map Segment.text) = text) ∧
    (∀ l, ⟨true, kind, name⟩ ∈ (s.link l).conditions →
      (play.after ops).isOffered l ≠ .ok true) ∧
    ∀ p links, (play.after ops).offered p = .ok links →
      ∀ l ∈ links, ⟨true, kind, name⟩ ∉ (s.link l).conditions := by
  have hsource : play.HasSource kind name := fun hhas => by simp [hnew] at hhas
  have hlacks : (play.after ops).player.has kind name = false := by
    refine Bool.eq_false_iff.2 fun hhas => ?_
    obtain ⟨p, -, hprovides⟩ := hsource.after hops hhas
    exact Story.not_provides_of_mem_defects h hname p hprovides
  have htest : ∀ positive, Condition.test ⟨positive, kind, name⟩ (play.after ops).player =
      .ok (!positive) := by
    intro positive
    obtain ⟨k, hk, -⟩ := Story.isProvided_eq_false_of_mem_defects h
    have hkind : (⟨positive, kind, name⟩ : Condition).kind.provider? = some k := hk
    rw [Condition.test_named hkind, hlacks, Bool.false_beq]
  refine ⟨hlacks, htest, fun _ => isShown_ne_of_test (htest true),
    fun _ _ => content_of_test (htest true), fun _ => isOffered_ne_of_test (htest true), ?_⟩
  intro p links hlinks l hl hc
  exact isOffered_ne_of_test (htest true) hc (eq_true_of_mem_select hlinks l hl)

end Play

/-! ### A bank -/

/-- A text that asks for the combination of the safe. -/
def safeOpen : Segment := ⟨"The safe is open.\n", [⟨true, .fact, "combination"⟩]⟩

/-- A text that is shown as long as the combination is not known. -/
def safeShut : Segment := ⟨"The safe is shut.\n", [⟨false, .fact, "combination"⟩]⟩

/-- A bank with a safe, whose combination nobody ever tells, and an office, in which a slip of paper
is found before a fee has to be paid. -/
def bank : Story where
  title := ""
  passages := [⟨"Hall", "", [safeOpen, safeShut], [], false⟩,
    ⟨"Office", "", [], [⟨.addItem, "paper"⟩, ⟨.takeMoney, "5"⟩], false⟩]
  links := [⟨0, 1, "Ask", [], []⟩, ⟨0, 0, "Open", [⟨true, .fact, "combination"⟩], []⟩]
  titles_nodup := by decide

namespace bank

/-- The passage with the safe. -/
def hall : bank.PassageId := ⟨0, by decide⟩

/-- The link to the office. -/
def ask : bank.LinkId := ⟨0, by decide⟩

/-- The office is entered in vain, and again with money and a hint from outside. -/
def inquiries : List (Operation bank) :=
  [.follow ask, .change (.addMoney 9), .perform ⟨.addFact, "hint"⟩, .follow ask]

/-- **The combination is reported, and it is never known**; the slip of paper is found, and the hint
is known. So the safe is shut, and all that can be done is to ask again. -/
theorem lacks_unprovided_combination :
    Defect.unprovided "Hall" .fact "combination" ∈ bank.defects ∧
    (∀ op ∈ inquiries, op.gift? ≠ some (.fact, "combination")) ∧
    (Play.after inquiries {}).player = ⟨4, [⟨"paper", 2⟩], ["hint"]⟩ ∧
    (Play.after inquiries {}).player.hasFact "combination" = false ∧
    Condition.test ⟨true, .fact, "combination"⟩ (Play.after inquiries {}).player = .ok false ∧
    (Play.after inquiries {}).isShown safeOpen ≠ .ok true ∧
    (Play.after inquiries {}).content hall = .ok "The safe is shut.\n" ∧
    (Play.after inquiries {}).offered hall = .ok [ask] ∧
    ∀ l ∈ [ask], ⟨true, .fact, "combination"⟩ ∉ (bank.link l).conditions := by
  have hreported : Defect.unprovided "Hall" .fact "combination" ∈ bank.defects := by
    decide +kernel
  have hops : ∀ op ∈ inquiries, op.gift? ≠ some (.fact, "combination") := by decide +kernel
  have hnew : ({} : Play bank).player.has .fact "combination" = false := rfl
  obtain ⟨hlacks, htest, hshown, -, -, hoffered⟩ :=
    Play.lacks_unprovided hreported (by decide) hnew hops
  have hlinks : (Play.after inquiries {}).offered hall = .ok [ask] := by decide +kernel
  exact ⟨hreported, hops, by decide +kernel, hlacks, htest true, hshown safeOpen (.head _),
    by decide +kernel, hlinks, hoffered hall [ask] hlinks⟩

end bank

end Skein
