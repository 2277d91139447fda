import Skein.Proofs.Directives
import Skein.Proofs.Segments

/-!
# Where control lines may stand

Whether content can be cut into segments is decided by its control lines, each of them together
with no more than the nearest one above it. A directive has to be readable, wherever it stands; the
nearest control line above an `[else]` has to be a directive, and the one above a `[continue]` a
directive or an `[else]`. Prose plays no part in this.

The walk that cuts content never looks back. What it needs to know of the lines above is in its
guard, and the guard remembers exactly which kind of control line was the last one
(`Guard.Remembers`). It also holds the conditions of a directive, but no `[else]` fails for want of
them: a directive that can be read states at least one (`ne_nil_of_readDirective`).

## Main definitions

* `Script.IsDirective`, `Script.IsElse`, `Script.IsContinue` — the control lines
* `Script.controlAbove` — the nearest control line above a place
* `Script.IsWellFormed` — all control lines stand where they may stand
* `Script.Offends` — a line does not, and this is the fault

## Main results

* `Script.stops_iff_offends` — the walk ends where a line offends
* `Script.segmentsFrom_eq_error_iff` — it ends at the first line that does
* `Script.segments_ok_iff_isWellFormed` — content is cut if it is well-formed, and otherwise it
  has the fault of the first line that offends
-/

namespace Skein

namespace Script

open Text

variable {above below : List (List Char)} {line : List Char} {guard next : Guard}
  {conditions : List Condition} {fault : Fault}

/-! ### Control lines -/

/-- A line that begins with `[if` or `[unless`. -/
def IsDirective (line : List Char) : Prop :=
  "[if".toList <+: trim line ∨ "[unless".toList <+: trim line

/-- The line `[else]`. -/
def IsElse (line : List Char) : Prop :=
  trim line = "[else]".toList

/-- The line `[continue]`. -/
def IsContinue (line : List Char) : Prop :=
  trim line = "[continue]".toList

/-- A line of any of these kinds. -/
def IsControl (line : List Char) : Prop :=
  IsDirective line ∨ IsElse line ∨ IsContinue line

instance : DecidablePred IsControl := fun line =>
  inferInstanceAs (Decidable ((_ <+: trim line ∨ _ <+: trim line) ∨ trim line = _ ∨ trim line = _))

theorem ofLine_eq_directive_iff_isDirective :
    Control.ofLine line = .directive ↔ IsDirective line := by
  rw [ofLine_eq_directive_iff]
  constructor
  · rintro ⟨positive, tail, h⟩
    cases positive with
    | true => exact .inl ⟨tail, h.symm⟩
    | false => exact .inr ⟨tail, h.symm⟩
  · rintro (⟨tail, h⟩ | ⟨tail, h⟩)
    · exact ⟨true, tail, h.symm⟩
    · exact ⟨false, tail, h.symm⟩

theorem ofLine_eq_otherwise_iff : Control.ofLine line = .otherwise ↔ IsElse line := by
  rw [Control.ofLine, IsElse]
  split
  · next h => exact iff_of_true rfl h
  · next h =>
    refine iff_of_false ?_ h
    split
    · simp
    · split <;> simp

theorem ofLine_eq_resume_iff : Control.ofLine line = .resume ↔ IsContinue line := by
  rw [Control.ofLine, IsContinue]
  split
  · next h => simp [h]
  · split
    · next h => exact iff_of_true rfl h
    · next h =>
      refine iff_of_false ?_ h
      split <;> simp

theorem ofLine_eq_prose_iff : Control.ofLine line = .prose ↔ ¬IsControl line := by
  rw [IsControl, ← ofLine_eq_directive_iff_isDirective, ← ofLine_eq_otherwise_iff,
    ← ofLine_eq_resume_iff]
  cases Control.ofLine line <;> simp

/-! ### The nearest control line -/

/-- The nearest control line above a place, given the lines above it. -/
def controlAbove (above : List (List Char)) : Option (List Char) :=
  (above.filter (IsControl ·)).getLast?

theorem filter_cons_of_control (hline : IsControl line) :
    (line :: below).filter (IsControl ·) = line :: below.filter (IsControl ·) :=
  List.filter_cons_of_pos (by simpa using hline)

theorem filter_cons_of_not (hline : ¬IsControl line) :
    (line :: below).filter (IsControl ·) = below.filter (IsControl ·) :=
  List.filter_cons_of_neg (by simpa using hline)

theorem controlAbove_concat_of_control (hline : IsControl line) :
    controlAbove (above ++ [line]) = some line := by
  rw [controlAbove, List.filter_append, filter_cons_of_control hline, List.filter_nil,
    List.getLast?_concat]

theorem controlAbove_concat_of_not (hline : ¬IsControl line) :
    controlAbove (above ++ [line]) = controlAbove above := by
  rw [controlAbove, List.filter_append, filter_cons_of_not hline, List.filter_nil, List.append_nil,
    controlAbove]

/-- A line may stand below the given lines. -/
structure MayStand (above : List (List Char)) (line : List Char) : Prop where
  /-- A directive can be read. -/
  readable : IsDirective line → ∃ conditions, readDirective line = .ok conditions
  /-- The nearest control line above an `[else]` is a directive. -/
  belowDirective : IsElse line → ∃ control ∈ controlAbove above, IsDirective control
  /-- The nearest control line above a `[continue]` is a directive or an `[else]`. -/
  belowGuard : IsContinue line →
    ∃ control ∈ controlAbove above, IsDirective control ∨ IsElse control

/-- A line may not stand below the given lines, and this is the fault. -/
inductive Offends (above : List (List Char)) (line : List Char) : Fault → Prop where
  /-- A directive cannot be read. -/
  | unreadable {fault : Fault} (hline : IsDirective line)
      (hread : readDirective line = .error fault) : Offends above line fault
  /-- The nearest control line above an `[else]` is a `[continue]`, or there is none. -/
  | elseOutside (hline : IsElse line)
      (habove : ∀ control ∈ controlAbove above, IsContinue control) :
      Offends above line .elseWithoutIf
  /-- The nearest control line above an `[else]` is an `[else]`. -/
  | elseTwice (hline : IsElse line) (habove : ∃ control ∈ controlAbove above, IsElse control) :
      Offends above line .elseWithoutCondition
  /-- The nearest control line above a `[continue]` is a `[continue]`, or there is none. -/
  | continueOutside (hline : IsContinue line)
      (habove : ∀ control ∈ controlAbove above, IsContinue control) :
      Offends above line .continueWithoutIf

/-- **Every line of the content may stand** below the lines above it. -/
def IsWellFormed (lines : List (List Char)) : Prop :=
  ∀ above line below, lines = above ++ line :: below → MayStand above line

/-- What the nearest control line above a place can be. -/
theorem controlAbove_cases (above : List (List Char)) :
    (∀ control ∈ controlAbove above, IsContinue control) ∨
      (∃ control ∈ controlAbove above, IsDirective control) ∨
      ∃ control ∈ controlAbove above, IsElse control := by
  cases habove : controlAbove above with
  | none => exact .inl (by simp)
  | some control =>
    have hcontrol : IsControl control :=
      of_decide_eq_true (List.mem_filter.1 (List.mem_of_getLast? habove)).2
    rcases hcontrol with hcontrol | hcontrol | hcontrol
    · exact .inr (.inl ⟨control, rfl, hcontrol⟩)
    · exact .inr (.inr ⟨control, rfl, hcontrol⟩)
    · exact .inl (by simpa using hcontrol)

theorem IsDirective.not_isElse (h : IsDirective line) : ¬IsElse line := by
  rw [← ofLine_eq_otherwise_iff, ofLine_eq_directive_iff_isDirective.2 h]
  simp

theorem IsDirective.not_isContinue (h : IsDirective line) : ¬IsContinue line := by
  rw [← ofLine_eq_resume_iff, ofLine_eq_directive_iff_isDirective.2 h]
  simp

theorem IsElse.not_isContinue (h : IsElse line) : ¬IsContinue line := by
  rw [← ofLine_eq_resume_iff, ofLine_eq_otherwise_iff.2 h]
  simp

theorem mayStand_of_not_isControl (h : ¬IsControl line) : MayStand above line :=
  ⟨fun hline => absurd (.inl hline) h, fun hline => absurd (.inr (.inl hline)) h,
    fun hline => absurd (.inr (.inr hline)) h⟩

/-- **A line may stand, or it offends.** -/
theorem mayStand_or_offends (above : List (List Char)) (line : List Char) :
    MayStand above line ∨ ∃ fault, Offends above line fault := by
  by_cases hcontrol : IsControl line
  · rcases hcontrol with hline | hline | hline
    · cases hread : readDirective line with
      | error fault => exact .inr ⟨fault, .unreadable hline hread⟩
      | ok conditions =>
        exact .inl ⟨fun _ => ⟨conditions, hread⟩, fun h => absurd h hline.not_isElse,
          fun h => absurd h hline.not_isContinue⟩
    · rcases controlAbove_cases above with habove | habove | habove
      · exact .inr ⟨_, .elseOutside hline habove⟩
      · exact .inl ⟨fun h => absurd hline h.not_isElse, fun _ => habove,
          fun h => absurd h hline.not_isContinue⟩
      · exact .inr ⟨_, .elseTwice hline habove⟩
    · have hstands : (∃ control ∈ controlAbove above, IsDirective control ∨ IsElse control) →
          MayStand above line := fun habove =>
        ⟨fun h => absurd hline h.not_isContinue, fun h => absurd hline h.not_isContinue,
          fun _ => habove⟩
      rcases controlAbove_cases above with habove | ⟨d, hd, hkind⟩ | ⟨d, hd, hkind⟩
      · exact .inr ⟨_, .continueOutside hline habove⟩
      · exact .inl (hstands ⟨d, hd, .inl hkind⟩)
      · exact .inl (hstands ⟨d, hd, .inr hkind⟩)
  · exact .inl (mayStand_of_not_isControl hcontrol)

/-- No line does both. -/
theorem Offends.not_mayStand (h : Offends above line fault) : ¬MayStand above line := by
  intro hstands
  cases h with
  | unreadable hline hread =>
    obtain ⟨conditions, hok⟩ := hstands.readable hline
    rw [hread] at hok
    cases hok
  | elseOutside hline habove =>
    obtain ⟨control, hcontrol, hkind⟩ := hstands.belowDirective hline
    exact hkind.not_isContinue (habove control hcontrol)
  | elseTwice hline habove =>
    obtain ⟨control, hcontrol, hkind⟩ := hstands.belowDirective hline
    obtain ⟨other, hother, helse⟩ := habove
    obtain rfl := Option.mem_unique hcontrol hother
    exact hkind.not_isElse helse
  | continueOutside hline habove =>
    obtain ⟨control, hcontrol, hkind | hkind⟩ := hstands.belowGuard hline
    · exact hkind.not_isContinue (habove control hcontrol)
    · exact hkind.not_isContinue (habove control hcontrol)

/-! ### Well-formed content -/

theorem isWellFormed_nil : IsWellFormed [] := by
  simp [IsWellFormed]

theorem isWellFormed_concat :
    IsWellFormed (above ++ [line]) ↔ IsWellFormed above ∧ MayStand above line := by
  constructor
  · intro h
    refine ⟨fun before other after heq => ?_, h above line [] rfl⟩
    exact h before other (after ++ [line]) (by simp [heq])
  · rintro ⟨habove, hline⟩ before other after heq
    rcases List.eq_nil_or_concat after with rfl | ⟨rest, last, rfl⟩
    · obtain ⟨rfl, hsingle⟩ := List.append_inj' heq rfl
      obtain rfl := List.singleton_inj.1 hsingle
      exact hline
    · rw [List.concat_eq_append, ← List.cons_append, ← List.append_assoc] at heq
      exact habove before other rest (List.append_inj' heq rfl).1

/-- **Content is well-formed, or there is a first line that offends.** -/
theorem isWellFormed_or_exists_offends (lines : List (List Char)) :
    IsWellFormed lines ∨ ∃ above line below fault, lines = above ++ line :: below ∧
      IsWellFormed above ∧ Offends above line fault := by
  induction lines using List.reverseRecOn with
  | nil => exact .inl isWellFormed_nil
  | append_singleton lines last ih =>
    rcases ih with hlines | ⟨above, line, below, fault, rfl, habove, hoffends⟩
    · rcases mayStand_or_offends lines last with hlast | ⟨fault, hoffends⟩
      · exact .inl (isWellFormed_concat.2 ⟨hlines, hlast⟩)
      · exact .inr ⟨lines, last, [], fault, rfl, hlines, hoffends⟩
    · exact .inr ⟨above, line, below ++ [last], fault, by simp, habove, hoffends⟩

/-! ### The memory of the walk -/

/-- **What a guard remembers** of the nearest control line above. -/
inductive Guard.Remembers (control : Option (List Char)) : Guard → Prop where
  /-- Outside of guarded text, it is a `[continue]`, or there is none. -/
  | unguarded (h : ∀ line ∈ control, IsContinue line) : Remembers control .unguarded
  /-- It is a directive. -/
  | holding {conditions : List Condition} (h : ∃ line ∈ control, IsDirective line) :
      Remembers control (.holding conditions)
  /-- It is an `[else]`. -/
  | inverted (h : ∃ line ∈ control, IsElse line) : Remembers control .inverted

theorem Turn.isControl (h : Turn line guard next conditions) : IsControl line := by
  cases h with
  | directive hline _ => exact .inl (ofLine_eq_directive_iff_isDirective.1 hline)
  | otherwise hline => exact .inr (.inl (ofLine_eq_otherwise_iff.1 hline))
  | resume hline _ => exact .inr (.inr (ofLine_eq_resume_iff.1 hline))

theorem Stops.isControl (h : Stops line guard fault) : IsControl line := by
  cases h with
  | directive hline _ => exact .inl (ofLine_eq_directive_iff_isDirective.1 hline)
  | elseOutside hline => exact .inr (.inl (ofLine_eq_otherwise_iff.1 hline))
  | elseTwice hline => exact .inr (.inl (ofLine_eq_otherwise_iff.1 hline))
  | continueOutside hline => exact .inr (.inr (ofLine_eq_resume_iff.1 hline))

/-- A control line is remembered by the guard that it leads to. -/
theorem Turn.remembers (h : Turn line guard next conditions) :
    next.Remembers (controlAbove (above ++ [line])) := by
  rw [controlAbove_concat_of_control h.isControl]
  cases h with
  | directive hline _ =>
    exact .holding ⟨line, rfl, ofLine_eq_directive_iff_isDirective.1 hline⟩
  | otherwise hline => exact .inverted ⟨line, rfl, ofLine_eq_otherwise_iff.1 hline⟩
  | resume hline _ => exact .unguarded (by simpa using ofLine_eq_resume_iff.1 hline)

/-- **The walk ends where a line offends**, and with the same fault. -/
theorem stops_iff_offends (hguard : guard.Remembers (controlAbove above)) :
    Stops line guard fault ↔ Offends above line fault := by
  constructor
  · intro h
    cases h with
    | directive hline hread =>
      exact .unreadable (ofLine_eq_directive_iff_isDirective.1 hline) hread
    | elseOutside hline =>
      cases hguard with
      | unguarded habove => exact .elseOutside (ofLine_eq_otherwise_iff.1 hline) habove
    | elseTwice hline =>
      cases hguard with
      | inverted habove => exact .elseTwice (ofLine_eq_otherwise_iff.1 hline) habove
    | continueOutside hline =>
      cases hguard with
      | unguarded habove => exact .continueOutside (ofLine_eq_resume_iff.1 hline) habove
  · intro h
    have outside : (∀ control ∈ controlAbove above, IsContinue control) → guard = .unguarded := by
      intro habove
      cases hguard with
      | unguarded _ => rfl
      | holding h =>
        obtain ⟨control, hcontrol, hkind⟩ := h
        exact absurd (habove control hcontrol) hkind.not_isContinue
      | inverted h =>
        obtain ⟨control, hcontrol, hkind⟩ := h
        exact absurd (habove control hcontrol) hkind.not_isContinue
    cases h with
    | unreadable hline hread =>
      exact .directive (ofLine_eq_directive_iff_isDirective.2 hline) hread
    | elseOutside hline habove =>
      obtain rfl := outside habove
      exact .elseOutside (ofLine_eq_otherwise_iff.2 hline)
    | elseTwice hline habove =>
      obtain ⟨control, hcontrol, helse⟩ := habove
      cases hguard with
      | unguarded h => exact absurd (h control hcontrol) helse.not_isContinue
      | holding h =>
        obtain ⟨other, hother, hkind⟩ := h
        obtain rfl := Option.mem_unique hcontrol hother
        exact absurd helse hkind.not_isElse
      | inverted _ => exact .elseTwice (ofLine_eq_otherwise_iff.2 hline)
    | continueOutside hline habove =>
      obtain rfl := outside habove
      exact .continueOutside (ofLine_eq_resume_iff.2 hline)

/-- **The walk fails at the first line that offends**, if it has come through the lines above. -/
theorem segmentsFrom_eq_error_iff {current : Segment} {lines : List (List Char)}
    (hguard : guard.Remembers (controlAbove above)) (habove : IsWellFormed above) :
    segmentsFrom guard current lines = .error fault ↔
      ∃ before line after, lines = before ++ line :: after ∧
        IsWellFormed (above ++ before) ∧ Offends (above ++ before) line fault := by
  induction lines generalizing above guard current with
  | nil => exact iff_of_false (fun h => by cases h) (by simp)
  | cons line below ih =>
    rw [exists_split_cons_iff (p := fun before line =>
      IsWellFormed (above ++ before) ∧ Offends (above ++ before) line fault), List.append_nil]
    -- Below a line that may stand, the walk goes on as if it were one of the lines above.
    have hon : MayStand above line → ∀ {next : Guard} {current : Segment},
        next.Remembers (controlAbove (above ++ [line])) →
        (segmentsFrom next current below = .error fault ↔
          IsWellFormed above ∧ Offends above line fault ∨
            ∃ before other after, below = before ++ other :: after ∧
              IsWellFormed (above ++ line :: before) ∧
              Offends (above ++ line :: before) other fault) := by
      intro hstands next current hnext
      rw [or_iff_right fun h => h.2.not_mayStand hstands,
        ih hnext (isWellFormed_concat.2 ⟨habove, hstands⟩)]
      simp only [List.append_assoc, List.singleton_append]
    rcases prose_or_turn_or_stops guard line with
      hprose | ⟨next, conditions, hturn⟩ | ⟨found, hstops⟩
    · have hplain := ofLine_eq_prose_iff.1 hprose
      rw [segmentsFrom_of_prose hprose]
      refine hon (mayStand_of_not_isControl hplain) ?_
      rwa [controlAbove_concat_of_not hplain]
    · have hstands : MayStand above line :=
        (mayStand_or_offends above line).resolve_right fun ⟨_, h⟩ =>
          hturn.not_stops ((stops_iff_offends hguard).2 h)
      rw [segmentsFrom_of_turn hturn, map_eq_error]
      exact hon hstands hturn.remembers
    · have hoffends := (stops_iff_offends hguard).1 hstops
      constructor
      · intro h
        obtain rfl := Except.error.inj ((segmentsFrom_of_stops hstops).symm.trans h)
        exact .inl ⟨habove, hoffends⟩
      · rintro (⟨-, h⟩ | ⟨before, other, after, -, hwell, -⟩)
        · exact segmentsFrom_of_stops ((stops_iff_offends hguard).2 h)
        · exact absurd (hwell above line before rfl) hoffends.not_mayStand

/-! ### Prose -/

/-- **Prose plays no part** in whether content can be cut, and with which fault if it cannot. -/
theorem map_segmentsFrom_filter (guard : Guard) (current current' : Segment)
    (lines : List (List Char)) :
    (segmentsFrom guard current lines).map (fun _ => ()) =
      (segmentsFrom guard current' (lines.filter (IsControl ·))).map fun _ => () := by
  have hmap : ∀ (x : Except Fault (List Segment)) (f : List Segment → List Segment),
      (x.map f).map (fun _ => ()) = x.map fun _ => () := by
    intro x f
    cases x <;> rfl
  induction lines generalizing guard current current' with
  | nil => rfl
  | cons line below ih =>
    rcases prose_or_turn_or_stops guard line with
      hprose | ⟨next, conditions, hturn⟩ | ⟨fault, hstops⟩
    · rw [filter_cons_of_not (ofLine_eq_prose_iff.1 hprose), segmentsFrom_of_prose hprose]
      exact ih guard _ current'
    · rw [filter_cons_of_control hturn.isControl, segmentsFrom_of_turn hturn,
        segmentsFrom_of_turn hturn, hmap, hmap]
      exact ih next _ _
    · rw [filter_cons_of_control hstops.isControl, segmentsFrom_of_stops hstops,
        segmentsFrom_of_stops hstops]

/-! ### Conditions -/

theorem readClauses_ne_nil {positive : Bool} {clauses : List Char}
    (h : readClauses positive clauses = .ok conditions) : conditions ≠ [] := by
  rintro rfl
  have hlength : ([] : List Condition).map (fun _ => ()) =
      ((splitPair '&' '&' clauses).map trim).map fun _ => () :=
    map_eq_map_of_mapM_eq_ok h fun _ _ _ => rfl
  rw [splitPair_eq] at hlength
  cases hcut : cutPair '&' '&' clauses <;> simp [hcut] at hlength

/-- **A directive that can be read states at least one condition**, so below it an `[else]` has
something to turn around. -/
theorem ne_nil_of_readDirective (hline : IsDirective line)
    (hread : readDirective line = .ok conditions) : conditions ≠ [] := by
  obtain ⟨positive, tail, h⟩ :=
    ofLine_eq_directive_iff.1 (ofLine_eq_directive_iff_isDirective.2 hline)
  have hword := takeWhile_behindWord_of_readDirective h hread
  rw [readDirective_eq h, if_pos hword] at hread
  exact readClauses_ne_nil hread

/-! ### Content -/

/-- **Content is cut if it is well-formed**, and otherwise it has the fault of the first line that
offends. Content with the same control lines and other prose is cut as well, or has the same fault;
and no `[else]` fails because a directive states no conditions. -/
theorem segments_ok_iff_isWellFormed (lines : List (List Char)) :
    ((∃ segs, segments lines = .ok segs) ↔ IsWellFormed lines) ∧
    (∀ fault, segments lines = .error fault ↔
      ∃ above line below, lines = above ++ line :: below ∧ IsWellFormed above ∧
        Offends above line fault) ∧
    (∀ other, other.filter (IsControl ·) = lines.filter (IsControl ·) →
      (segments other).map (fun _ => ()) = (segments lines).map fun _ => ()) ∧
    ∀ line conditions, IsDirective line → readDirective line = .ok conditions →
      conditions ≠ [] := by
  have hstart : Guard.Remembers (controlAbove []) .unguarded := .unguarded (by simp [controlAbove])
  have hfail : ∀ fault, segments lines = .error fault ↔
      ∃ above line below, lines = above ++ line :: below ∧ IsWellFormed above ∧
        Offends above line fault := fun fault =>
    segmentsFrom_eq_error_iff hstart isWellFormed_nil
  refine ⟨⟨?_, ?_⟩, hfail, ?_, fun _ _ => ne_nil_of_readDirective⟩
  · rintro ⟨segs, hok⟩
    refine (isWellFormed_or_exists_offends lines).resolve_right ?_
    rintro ⟨above, line, below, fault, hfirst⟩
    have herror := (hfail fault).2 ⟨above, line, below, hfirst⟩
    rw [hok] at herror
    cases herror
  · intro hwell
    refine (exists_eq_ok_or_exists_eq_error (segments lines)).resolve_right ?_
    rintro ⟨fault, herror⟩
    obtain ⟨above, line, below, heq, -, hoffends⟩ := (hfail fault).1 herror
    exact hoffends.not_mayStand (hwell above line below heq)
  · intro other hcontrol
    rw [segments, segments, map_segmentsFrom_filter _ _ ⟨"", []⟩ other, hcontrol,
      ← map_segmentsFrom_filter]

/-- A staircase whose second `[else]` has nothing left to turn around. -/
def stairLines : List (List Char) :=
  ["The stairs.".toList, "[if hasItem lamp]".toList, "They lead down.".toList,
    "  [else]".toList, "It is dark.".toList, "[else]".toList, "You wait.".toList,
    "[continue]".toList]

/-- The same staircase up to the fault, with nothing to be seen of it. -/
def bareStairLines : List (List Char) :=
  ["[if hasItem lamp]".toList, "".toList, "  [else]".toList]

/-- The staircase is well-formed up to its second `[else]`, with prose or without. -/
theorem segments_ok_iff_isWellFormed_stair :
    segments stairLines = .error .elseWithoutCondition ∧ ¬IsWellFormed stairLines ∧
    (∃ above line below, stairLines = above ++ line :: below ∧ IsWellFormed above ∧
      Offends above line .elseWithoutCondition) ∧
    IsWellFormed bareStairLines ∧
    bareStairLines.filter (IsControl ·) = (stairLines.take 5).filter (IsControl ·) ∧
    (segments bareStairLines).map (fun _ => ()) =
      (segments (stairLines.take 5)).map (fun _ => ()) ∧
    [⟨true, .hasItem, "lamp"⟩] ≠ ([] : List Condition) := by
  have herror : segments stairLines = .error .elseWithoutCondition := by decide +kernel
  have hok : (segments bareStairLines).toOption = some [] := by decide +kernel
  have hsame : bareStairLines.filter (IsControl ·) = (stairLines.take 5).filter (IsControl ·) := by
    decide +kernel
  have hdirective : IsDirective "[if hasItem lamp]".toList := .inl (by decide)
  have hread : readDirective "[if hasItem lamp]".toList = .ok [⟨true, .hasItem, "lamp"⟩] :=
    toOption_eq_some.1 (by decide +kernel)
  obtain ⟨hstair, hfail, -, hconditions⟩ := segments_ok_iff_isWellFormed stairLines
  refine ⟨herror, fun hwell => ?_, (hfail _).1 herror, ?_, hsame, ?_, ?_⟩
  · obtain ⟨segs, hsegs⟩ := hstair.2 hwell
    rw [herror] at hsegs
    cases hsegs
  · exact (segments_ok_iff_isWellFormed bareStairLines).1.1 ⟨[], toOption_eq_some.1 hok⟩
  · exact (segments_ok_iff_isWellFormed (stairLines.take 5)).2.2.1 bareStairLines hsame
  · exact hconditions _ _ hdirective hread

end Script

end Skein
