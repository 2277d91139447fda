import Skein.Proofs.Success
import Skein.Script.Content

/-!
# How content is cut

Cutting content into segments is a walk with a state: the guard, which knows what an `[else]` would
turn around, and the segment that collects lines. A line of prose is collected. A control line turns
the guard, ends the segment and starts one under other conditions, or it is a fault. `Turn` says
which guard and which conditions a control line leads to, `Stops` with which fault it ends the walk,
and the walk does nothing else (`prose_or_turn_or_stops`); inductions over content need to know no
more of it.

## Main definitions

* `Script.Turn` — where a control line leads
* `Script.Stops` — the fault with which a control line ends the walk

## Main results

* `Script.segmentsFrom_of_prose`, `Script.segmentsFrom_of_turn`, `Script.segmentsFrom_of_stops` —
  what the first line does
* `Script.segmentsFrom_cons_eq_ok` — what the first line does where the walk succeeds
-/

namespace Skein

namespace Script

/-- Where a control line leads: from a guard to the next guard and the conditions below the line. -/
inductive Turn (line : List Char) : Guard → Guard → List Condition → Prop where
  /-- A directive states conditions. -/
  | directive {guard : Guard} {conditions : List Condition}
      (hline : Control.ofLine line = .directive) (hread : readDirective line = .ok conditions) :
      Turn line guard (.holding conditions) conditions
  /-- Below a directive, `[else]` turns its conditions around. -/
  | otherwise {conditions : List Condition} (hline : Control.ofLine line = .otherwise) :
      Turn line (.holding conditions) .inverted (conditions.map Condition.negate)
  /-- Below a directive or an `[else]`, `[continue]` ends the conditions. -/
  | resume {guard : Guard} (hline : Control.ofLine line = .resume) (hguard : guard ≠ .unguarded) :
      Turn line guard .unguarded []

/-- The fault that is found with a control line at a guard, which ends the walk. -/
inductive Stops (line : List Char) : Guard → Fault → Prop where
  /-- A directive cannot be read. -/
  | directive {guard : Guard} {fault : Fault}
      (hline : Control.ofLine line = .directive) (hread : readDirective line = .error fault) :
      Stops line guard fault
  /-- Outside of guarded text, `[else]` has no directive to turn around. -/
  | elseOutside (hline : Control.ofLine line = .otherwise) :
      Stops line .unguarded .elseWithoutIf
  /-- Below an `[else]`, the conditions of the directive are turned around already. -/
  | elseTwice (hline : Control.ofLine line = .otherwise) :
      Stops line .inverted .elseWithoutCondition
  /-- Outside of guarded text, `[continue]` has nothing to end. -/
  | continueOutside (hline : Control.ofLine line = .resume) :
      Stops line .unguarded .continueWithoutIf

variable {guard next : Guard} {current : Segment} {line : List Char} {below : List (List Char)}
  {segs : List Segment} {conditions : List Condition} {fault : Fault}

/-- **A line is prose, or it leads somewhere, or it ends the walk.** -/
theorem prose_or_turn_or_stops (guard : Guard) (line : List Char) :
    Control.ofLine line = .prose ∨ (∃ next conditions, Turn line guard next conditions) ∨
      ∃ fault, Stops line guard fault := by
  cases hline : Control.ofLine line with
  | prose => exact .inl rfl
  | directive =>
    cases hread : readDirective line with
    | error fault => exact .inr (.inr ⟨fault, .directive hline hread⟩)
    | ok conditions => exact .inr (.inl ⟨_, _, .directive hline hread⟩)
  | otherwise =>
    cases guard with
    | unguarded => exact .inr (.inr ⟨_, .elseOutside hline⟩)
    | inverted => exact .inr (.inr ⟨_, .elseTwice hline⟩)
    | holding conditions => exact .inr (.inl ⟨_, _, .otherwise hline⟩)
  | resume =>
    cases guard with
    | unguarded => exact .inr (.inr ⟨_, .continueOutside hline⟩)
    | inverted => exact .inr (.inl ⟨_, _, .resume hline (by simp)⟩)
    | holding conditions => exact .inr (.inl ⟨_, _, .resume hline (by simp)⟩)

/-- A segment that is kept is the one that has collected the lines. -/
theorem eq_of_mem_keep {current seg : Segment} (h : seg ∈ keep current) : seg = current := by
  rw [keep] at h
  split at h
  · cases h
  · exact List.mem_singleton.1 h

/-! ### What the first line does -/

/-- A line of prose is collected. -/
theorem segmentsFrom_of_prose (hline : Control.ofLine line = .prose) :
    segmentsFrom guard current (line :: below) =
      segmentsFrom guard (addLine current line) below := by
  rw [segmentsFrom.eq_def]
  dsimp only
  rw [hline]

/-- A control line that leads somewhere ends the current segment and starts one there. -/
theorem segmentsFrom_of_turn (hturn : Turn line guard next conditions) :
    segmentsFrom guard current (line :: below) =
      (segmentsFrom next ⟨"", conditions⟩ below).map (keep current ++ ·) := by
  have hbind : ∀ x : Except Fault (List Segment),
      (do return keep current ++ (← x)) = x.map (keep current ++ ·) := by
    intro x
    cases x <;> rfl
  rw [segmentsFrom.eq_def]
  dsimp only
  cases hturn with
  | directive hline hread =>
    rw [hline, hread]
    exact hbind _
  | otherwise hline =>
    rw [hline]
    exact hbind _
  | resume hline hguard =>
    rw [hline]
    cases guard with
    | unguarded => exact absurd rfl hguard
    | inverted => exact hbind _
    | holding held => exact hbind _

/-- A control line with a fault ends the walk. -/
theorem segmentsFrom_of_stops (hstops : Stops line guard fault) :
    segmentsFrom guard current (line :: below) = .error fault := by
  rw [segmentsFrom.eq_def]
  dsimp only
  cases hstops with
  | directive hline hread =>
    rw [hline, hread]
    rfl
  | elseOutside hline => rw [hline]
  | elseTwice hline => rw [hline]
  | continueOutside hline => rw [hline]

/-- A control line that leads somewhere has no fault. -/
theorem Turn.not_stops (hturn : Turn line guard next conditions) : ¬Stops line guard fault := by
  intro hstops
  have hwalk : segmentsFrom guard ⟨"", []⟩ [line] = .error fault := segmentsFrom_of_stops hstops
  rw [segmentsFrom_of_turn hturn] at hwalk
  cases hwalk

/-- **What the first line does where the walk succeeds**: it is collected, or it is a control line
that ends the current segment. -/
theorem segmentsFrom_cons_eq_ok :
    segmentsFrom guard current (line :: below) = .ok segs ↔
      (Control.ofLine line = .prose ∧ segmentsFrom guard (addLine current line) below = .ok segs) ∨
      ∃ next conditions more, Turn line guard next conditions ∧
        segmentsFrom next ⟨"", conditions⟩ below = .ok more ∧ segs = keep current ++ more := by
  constructor
  · intro h
    rcases prose_or_turn_or_stops guard line with
      hline | ⟨next, conditions, hturn⟩ | ⟨fault, hstops⟩
    · exact .inl ⟨hline, segmentsFrom_of_prose hline ▸ h⟩
    · rw [segmentsFrom_of_turn hturn] at h
      obtain ⟨more, hmore, hsegs⟩ := map_eq_ok.1 h
      exact .inr ⟨next, conditions, more, hturn, hmore, hsegs.symm⟩
    · rw [segmentsFrom_of_stops hstops] at h
      cases h
  · rintro (⟨hline, h⟩ | ⟨next, conditions, more, hturn, hmore, rfl⟩)
    · rwa [segmentsFrom_of_prose hline]
    · rw [segmentsFrom_of_turn hturn]
      exact map_eq_ok.2 ⟨more, hmore, rfl⟩

end Script

end Skein
