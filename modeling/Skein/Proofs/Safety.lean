import Skein.Proofs.Branch
import Skein.Proofs.Legible
import Skein.Proofs.Operations

/-!
# A loaded story goes wrong for money only

Everything that can be asked of a story looks at conditions, and everything that moves in it at
effects. In a story that was read from a script both are legible, so questions have answers and
moves can fail for one reason only, namely that the balance would leave its range. A playthrough has
no invariant in this: whatever the player owns and knows and whichever marks are set, legible
conditions can be judged and legible effects stand for changes, so what holds of one operation in
any playthrough holds all through a run.

## Main definitions

* `PlayError.IsAboutMoney` — the failures that no story can exclude
* `Operation.MayFailWith` — the failures that each operation admits

## Main results

* `Play.isAboutMoney_of_visit`, `Play.isAboutMoney_of_follow` — moves fail for money only
* `Play.exists_content_eq_ok`, `Play.exists_isOffered_eq_ok` — questions have answers
* `Operation.run_ok_or_mayFailWith` — each operation in any playthrough of a legible story
* `Script.run_ok_or_mayFailWith_of_read` — each operation in each run of a story that was loaded
-/

namespace Skein

/-- The failures that no story can exclude. -/
def PlayError.IsAboutMoney : PlayError → Prop
  | negativeMoney _ _ | moneyOverflow _ _ => True
  | invalidThreshold _ | invalidAmount _ | passageNotFound _ => False

/-! ### Changes and effects -/

theorem Player.isAboutMoney_of_addMoney {p : Player} {amount : Int} {e : PlayError}
    (h : p.addMoney amount = .error e) : e.IsAboutMoney := by
  rw [Player.addMoney] at h
  split at h
  · obtain rfl := Except.error.inj h
    trivial
  · split at h
    · obtain rfl := Except.error.inj h
      trivial
    · cases h

theorem Player.isAboutMoney_of_change {p : Player} {c : Change} {e : PlayError}
    (h : p.change c = .error e) : e.IsAboutMoney := by
  cases c with
  | addItem name => cases h
  | takeItem name => cases h
  | addFact fact => cases h
  | addMoney amount => exact isAboutMoney_of_addMoney h
  | takeMoney amount =>
    rw [Player.change, Player.takeMoney] at h
    split at h
    · obtain rfl := Except.error.inj h
      trivial
    · exact isAboutMoney_of_addMoney h

/-- A legible effect stands for a change. -/
theorem Effect.IsLegible.exists_change_eq_ok {e : Effect} (h : e.IsLegible) :
    ∃ c, e.change = .ok c := by
  have hamount : e.kind.takesAmount = true → ∃ amount, e.amount = .ok amount := by
    intro hkind
    obtain ⟨amount, hread⟩ := h hkind
    exact ⟨amount, by rw [Effect.amount, hread]⟩
  rw [Effect.change]
  cases hkind : e.kind with
  | addItem => exact ⟨_, rfl⟩
  | takeItem => exact ⟨_, rfl⟩
  | addFact => exact ⟨_, rfl⟩
  | addMoney =>
    obtain ⟨amount, heq⟩ := hamount (by rw [hkind]; rfl)
    exact ⟨.addMoney amount, by rw [heq]; rfl⟩
  | takeMoney =>
    obtain ⟨amount, heq⟩ := hamount (by rw [hkind]; rfl)
    exact ⟨.takeMoney amount, by rw [heq]; rfl⟩

/-- An effect that stands for no change has an amount that cannot be read. -/
theorem Effect.eq_invalidAmount_of_change {effect : Effect} {e : PlayError}
    (h : effect.change = .error e) : e = .invalidAmount effect.value := by
  have hamount : effect.amount = .error e → e = .invalidAmount effect.value := by
    intro herr
    rw [Effect.amount] at herr
    split at herr
    · cases herr
    · exact (Except.error.inj herr).symm
  rw [Effect.change] at h
  cases hkind : effect.kind with
  | addItem => rw [hkind] at h; cases h
  | takeItem => rw [hkind] at h; cases h
  | addFact => rw [hkind] at h; cases h
  | addMoney => rw [hkind] at h; exact hamount (map_eq_error.1 h)
  | takeMoney => rw [hkind] at h; exact hamount (map_eq_error.1 h)

namespace Play

variable {s : Story}

/-! ### Moves -/

theorem isAboutMoney_of_change {play : Play s} {c : Change} {e : PlayError}
    (h : (play.change c).result = .error e) : e.IsAboutMoney := by
  rw [change] at h
  split at h
  · next err herr =>
    obtain rfl := Except.error.inj h
    exact Player.isAboutMoney_of_change herr
  · cases h

theorem isAboutMoney_of_perform {play : Play s} {effect : Effect} {e : PlayError}
    (heffect : effect.IsLegible) (h : (play.perform effect).result = .error e) :
    e.IsAboutMoney := by
  obtain ⟨c, hc⟩ := heffect.exists_change_eq_ok
  rw [perform, hc] at h
  exact isAboutMoney_of_change h

/-- An effect from elsewhere may also have an amount that cannot be read. -/
theorem isAboutMoney_or_eq_of_perform {play : Play s} {effect : Effect} {e : PlayError}
    (h : (play.perform effect).result = .error e) :
    e.IsAboutMoney ∨ e = .invalidAmount effect.value := by
  rw [perform] at h
  split at h
  · next err herr =>
    obtain rfl := Except.error.inj h
    exact .inr (Effect.eq_invalidAmount_of_change herr)
  · exact .inl (isAboutMoney_of_change h)

theorem isAboutMoney_of_performAll {play : Play s} {effects : List Effect} {e : PlayError}
    (heffects : ∀ effect ∈ effects, effect.IsLegible)
    (h : (play.performAll effects).result = .error e) : e.IsAboutMoney := by
  induction effects generalizing play with
  | nil => cases h
  | cons effect rest ih =>
    obtain ⟨heffect, hrest⟩ := List.forall_mem_cons.1 heffects
    rw [performAll, Outcome.andThen] at h
    split at h
    · next err herr =>
      obtain rfl := Except.error.inj h
      exact isAboutMoney_of_perform heffect herr
    · exact ih hrest h

theorem isAboutMoney_of_visit (hs : s.IsLegible) {play : Play s} {p : s.PassageId} {e : PlayError}
    (h : (play.visit p).result = .error e) : e.IsAboutMoney :=
  isAboutMoney_of_performAll (hs.effects p) h

theorem isAboutMoney_of_follow (hs : s.IsLegible) {play : Play s} {l : s.LinkId} {e : PlayError}
    (h : (play.follow l).result = .error e) : e.IsAboutMoney :=
  isAboutMoney_of_visit hs (map_eq_error.1 h)

theorem eq_passageNotFound_of_setStart {play : Play s} {title : String} {e : PlayError}
    (h : play.setStart title = .error e) : e = .passageNotFound title := by
  rw [setStart, map_eq_error, Story.find] at h
  split at h
  · cases h
  · exact (Except.error.inj h).symm

/-! ### Questions -/

theorem exists_content_eq_ok (hs : s.IsLegible) (play : Play s) (p : s.PassageId) :
    ∃ text, play.content p = .ok text := by
  have hshown := select_eq_ok fun seg hseg =>
    Condition.exists_allHold_eq_ok (hs.segments p seg hseg) play.player
  exact ⟨_, bind_eq_ok.2 ⟨_, hshown, rfl⟩⟩

theorem exists_isOffered_eq_ok (hs : s.IsLegible) (play : Play s) (l : s.LinkId) :
    ∃ b, play.isOffered l = .ok b := by
  rw [isOffered]
  split
  · exact ⟨false, rfl⟩
  · exact Condition.exists_allHold_eq_ok (hs.links l) play.player

theorem exists_offered_eq_ok_of_isLegible (hs : s.IsLegible) (play : Play s) (p : s.PassageId) :
    ∃ links, play.offered p = .ok links :=
  exists_offered_eq_ok (exists_isOffered_eq_ok hs play) p

theorem exists_isExplored_eq_ok (hs : s.IsLegible) (play : Play s) (l : s.LinkId)
    (source : s.PassageId) : ∃ b, play.isExplored l source = .ok b := by
  obtain ⟨found, hfound, -⟩ := exists_descendants_eq_ok (exists_isOffered_eq_ok hs play) l source
  obtain ⟨b, hb, -⟩ := isExplored_eq_ok hfound
  exact ⟨b, hb⟩

end Play

/-! ### Dialogs -/

namespace Dialog

variable {s : Story}

theorem isAboutMoney_of_begin (hs : s.IsLegible) {play : Play s} {e : PlayError}
    (h : (begin play).result = .error e) : e.IsAboutMoney := by
  rw [begin] at h
  split at h
  · cases h
  · exact Play.isAboutMoney_of_visit hs (map_eq_error.1 h)

theorem isAboutMoney_of_confirm (hs : s.IsLegible) {d : Dialog s} {play : Play s} {e : PlayError}
    (h : (d.confirm play).1.result = .error e) : e.IsAboutMoney := by
  obtain ⟨links, hlinks⟩ := Play.exists_offered_eq_ok_of_isLegible hs play d.passage
  rw [confirm, hlinks] at h
  dsimp only at h
  split at h
  · cases h
  · exact Play.isAboutMoney_of_follow hs (map_eq_error.1 h)

theorem exists_moveCursor_eq_ok (hs : s.IsLegible) (move : Nat → Nat → Nat) (d : Dialog s)
    (play : Play s) : ∃ moved, d.moveCursor move play = .ok moved := by
  obtain ⟨links, hlinks⟩ := Play.exists_offered_eq_ok_of_isLegible hs play d.passage
  exact ⟨_, bind_eq_ok.2 ⟨links, hlinks, rfl⟩⟩

theorem exists_options_eq_ok (hs : s.IsLegible) (d : Dialog s) (play : Play s) :
    ∃ choices, d.options play = .ok choices := by
  obtain ⟨links, hlinks⟩ := Play.exists_offered_eq_ok_of_isLegible hs play d.passage
  exact ⟨_, bind_eq_ok.2 ⟨links, hlinks, rfl⟩⟩

theorem exists_isFinished_eq_ok (hs : s.IsLegible) (d : Dialog s) (play : Play s) :
    ∃ b, d.isFinished play = .ok b := by
  obtain ⟨links, hlinks⟩ := Play.exists_offered_eq_ok_of_isLegible hs play d.passage
  exact ⟨_, bind_eq_ok.2 ⟨links, hlinks, rfl⟩⟩

end Dialog

/-! ### Operations -/

namespace Operation

variable {s : Story}

/-- The failures that each operation admits. Moves of the story and changes of the player fail for
money only; an effect from elsewhere may have an amount that cannot be read, and a title from
elsewhere may belong to no passage. All else succeeds. -/
def MayFailWith : Operation s → PlayError → Prop
  | visit _, e | follow _, e | change _, e | begin, e | confirm _, e => e.IsAboutMoney
  | perform effect, e => e.IsAboutMoney ∨ e = .invalidAmount effect.value
  | setStart title, e => e = .passageNotFound title
  | _, _ => False

/-- **Each operation in any playthrough** of a legible story succeeds, or fails as it may. -/
theorem run_ok_or_mayFailWith (hs : s.IsLegible) (op : Operation s) (play : Play s) :
    (∃ answer, (op.run play).result = .ok answer) ∨
      ∃ e, (op.run play).result = .error e ∧ op.MayFailWith e := by
  have hoffered := Play.exists_isOffered_eq_ok hs play
  have answered : ∀ {α : Type} {x : Except PlayError α} (f : α → Answer s), (∃ a, x = .ok a) →
      (op.run play = .ofQuery (x.map f) play) →
      ∃ answer, (op.run play).result = .ok answer := by
    rintro α x f ⟨a, rfl⟩ hrun
    exact ⟨f a, by rw [hrun]; rfl⟩
  rcases exists_eq_ok_or_exists_eq_error (op.run play).result with hok | ⟨e, he⟩
  · exact .inl hok
  cases op with
  | visit p => exact .inr ⟨e, he, Play.isAboutMoney_of_visit hs (map_eq_error.1 he)⟩
  | follow l => exact .inr ⟨e, he, Play.isAboutMoney_of_follow hs (map_eq_error.1 he)⟩
  | change c => exact .inr ⟨e, he, Play.isAboutMoney_of_change (map_eq_error.1 he)⟩
  | perform effect =>
    exact .inr ⟨e, he, Play.isAboutMoney_or_eq_of_perform (map_eq_error.1 he)⟩
  | setStart title =>
    refine .inr ⟨e, he, ?_⟩
    rw [run] at he
    split at he
    · next err herr =>
      obtain rfl := Except.error.inj he
      exact Play.eq_passageNotFound_of_setStart herr
    · cases he
  | listen => cases he
  | begin => exact .inr ⟨e, he, Dialog.isAboutMoney_of_begin hs (map_eq_error.1 he)⟩
  | confirm d => exact .inr ⟨e, he, Dialog.isAboutMoney_of_confirm hs (map_eq_error.1 he)⟩
  | next d => exact .inl (answered _ (Dialog.exists_moveCursor_eq_ok hs _ d play) rfl)
  | previous d => exact .inl (answered _ (Dialog.exists_moveCursor_eq_ok hs _ d play) rfl)
  | select d index => exact .inl (answered _ (Dialog.exists_moveCursor_eq_ok hs _ d play) rfl)
  | options d => exact .inl (answered _ (Dialog.exists_options_eq_ok hs d play) rfl)
  | isFinished d => exact .inl (answered _ (Dialog.exists_isFinished_eq_ok hs d play) rfl)
  | content p => exact .inl (answered _ (Play.exists_content_eq_ok hs play p) rfl)
  | offered p => exact .inl (answered _ (Play.exists_offered_eq_ok hoffered p) rfl)
  | descendants l source =>
    obtain ⟨found, hfound, -⟩ := Play.exists_descendants_eq_ok hoffered l source
    exact .inl (answered _ ⟨found, hfound⟩ rfl)
  | isExplored l source =>
    exact .inl (answered _ (Play.exists_isExplored_eq_ok hs play l source) rfl)
  | isBranchComplete l =>
    exact .inl (answered _ (Play.exists_isExplored_eq_ok hs play l _) rfl)

end Operation

/-! ### Loaded stories -/

/-- **A story that was loaded goes wrong for money only.** After any run from its beginning, each
operation succeeds or fails as it may; and every handle of the story, the ends of its links among
them, is found in the lists that handles are places in. -/
theorem Script.run_ok_or_mayFailWith_of_read {script : String} {d : Draft} {s : Story}
    (hread : Script.read script = .ok d) (hstory : Story.ofDraft d = .ok s)
    (ops : List (Operation s)) (op : Operation s) :
    ((∃ answer, (op.run (Play.after ops {})).result = .ok answer) ∨
      ∃ e, (op.run (Play.after ops {})).result = .error e ∧ op.MayFailWith e) ∧
    (∀ p : s.PassageId, s.passages[p.val]? = some (s.passage p)) ∧
    ∀ l : s.LinkId, s.links[l.val]? = some (s.link l) ∧
      s.passages[(s.link l).source.val]? = some (s.passage (s.link l).source) ∧
      s.passages[(s.link l).target.val]? = some (s.passage (s.link l).target) := by
  have hs : s.IsLegible := Story.isLegible_of_ofDraft (Script.isLegible_of_read hread) hstory
  have hpassage : ∀ p : s.PassageId, s.passages[p.val]? = some (s.passage p) := fun p =>
    List.getElem?_eq_getElem p.isLt
  refine ⟨op.run_ok_or_mayFailWith hs _, hpassage, fun l => ⟨?_, hpassage _, hpassage _⟩⟩
  exact List.getElem?_eq_getElem l.isLt

/-- A road with a toll, and a ditch beside it where some money can be found once. -/
def tollScript : String :=
  ":: Gate\n[if hasMoney 3]\n[[Road]]\n[else]\n[[Ditch]]\n" ++
    ":: Road\ntakeMoney: 3\n--\nOnward.\n[[Gate]]\n" ++
    ":: Ditch [once]\naddMoney: 1\n--\n[[Gate]]\n"

/-- What is written of the road with a toll. -/
def tollDraft : Draft where
  passages := [
    { title := "Gate"
      links := [⟨"Road", "Road", [⟨true, .hasMoney, "3"⟩], []⟩,
        ⟨"Ditch", "Ditch", [⟨false, .hasMoney, "3"⟩], []⟩] },
    { title := "Road"
      segments := [⟨"Onward.\n", []⟩]
      effects := [⟨.takeMoney, "3"⟩]
      links := [⟨"Gate", "Gate", [], []⟩] },
    { title := "Ditch"
      tags := [Tag.once]
      effects := [⟨.addMoney, "1"⟩]
      links := [⟨"Gate", "Gate", [], []⟩] }]

theorem tollScript_read : Script.read tollScript = .ok tollDraft :=
  toOption_eq_some.1 (by decide +kernel)

/-- On the road with a toll, nothing goes wrong but for money. -/
theorem tollScript_run_ok_or_mayFailWith :
    ∃ d s, Script.read tollScript = .ok d ∧ Story.ofDraft d = .ok s ∧
      ∀ ops op, ((∃ answer, (Operation.run op (Play.after ops (s := s) {})).result = .ok answer) ∨
        ∃ e, (op.run (Play.after ops {})).result = .error e ∧ op.MayFailWith e) ∧
        (∀ p : s.PassageId, s.passages[p.val]? = some (s.passage p)) ∧
        ∀ l : s.LinkId, s.links[l.val]? = some (s.link l) ∧
          s.passages[(s.link l).source.val]? = some (s.passage (s.link l).source) ∧
          s.passages[(s.link l).target.val]? = some (s.passage (s.link l).target) := by
  have hbuilt : (Story.ofDraft tollDraft).toOption.isSome = true := by decide +kernel
  obtain ⟨s, hs⟩ := Option.isSome_iff_exists.1 hbuilt
  exact ⟨tollDraft, s, tollScript_read, toOption_eq_some.1 hs,
    Script.run_ok_or_mayFailWith_of_read tollScript_read (toOption_eq_some.1 hs)⟩

end Skein
