import Skein.Proofs.Operations
import Skein.Proofs.Selection

/-!
# The cursor turns around

The options of a passage stand in a circle: behind the last one comes the first. Moving the cursor
to the next option and to the previous one turns it by one place in one direction and in the other,
so what a number of such turns leads to depends on their sum alone, taken modulo the number of
options (`Dialog.placeAfter_eq`). That the turns undo each other and that one of them, done many
times, leads where it is counted to are two ways to read this.

A cursor can be any number, because it may be left over from a longer list. Every movement brings it
back among the options first, so that exactly one of these is selected afterwards.

Where the cursor and the number of options are kept in machine words, a place is computed by steps
that a word may not have room for. `Dialog.Move.word` takes these steps as checked ones, and they
never fail (`Dialog.Move.computes_word`), because the cursor is brought back before it is moved and
not after it.

## Main definitions

* `Word.Computes` — a checked computation on machine words succeeds with a number
* `Dialog.Move` — the movements of a cursor
* `Dialog.Move.place`, `Dialog.placeAfter` — the place that one movement leads to, and several
* `Dialog.Move.turn`, `Dialog.turns` — by how many places one movement turns the cursor, and several
* `Dialog.Move.word` — the place as computed in machine words
* `Dialog.Rotates` — the options stand in a circle

## Main results

* `Dialog.moves_of_ok` — a run of movements moves the cursor and does nothing else
* `Dialog.placeAfter_eq` — turns add up modulo the number of options
* `Dialog.Move.computes_word` — no step of the computation leaves the machine words
* `Dialog.rotates_of_ok` — the options that are offered stand in a circle
* `Dialog.moves_rotate` — the same, and that a movement changes nothing else
-/

namespace Skein

/-! ### Checked machine words -/

namespace Word

/-- The sum of two words, if a word has room for it. -/
def add? (a b : UInt64) : Option UInt64 :=
  if a.toNat + b.toNat < UInt64.size then some (a + b) else none

/-- The difference of two words, if it is not negative. -/
def sub? (a b : UInt64) : Option UInt64 :=
  if b.toNat ≤ a.toNat then some (a - b) else none

/-- The remainder of a division, if there is one. -/
def mod? (a b : UInt64) : Option UInt64 :=
  if b = 0 then none else some (a % b)

/-- A checked computation succeeds with the word for a number. -/
def Computes (o : Option UInt64) (n : Nat) : Prop :=
  o.map UInt64.toNat = some n

theorem toNat_eq_zero {a : UInt64} : a.toNat = 0 ↔ a = 0 :=
  UInt64.toNat_inj (b := 0)

theorem computes_some (a : UInt64) : Computes (some a) a.toNat := rfl

/-- Computations one after the other: the second need only be right about the number that the first
one is right about. -/
theorem Computes.bind {o : Option UInt64} {f : UInt64 → Option UInt64} {n m : Nat}
    (ho : Computes o n) (hf : ∀ a : UInt64, a.toNat = n → Computes (f a) m) :
    Computes (o.bind f) m := by
  obtain ⟨a, rfl, ha⟩ := Option.map_eq_some_iff.1 ho
  exact hf a ha

theorem computes_add? {a b : UInt64} (h : a.toNat + b.toNat < UInt64.size) :
    Computes (add? a b) (a.toNat + b.toNat) := by
  rw [add?, if_pos h, Computes, Option.map_some, UInt64.toNat_add, Nat.mod_eq_of_lt h]

theorem computes_sub? {a b : UInt64} (h : b.toNat ≤ a.toNat) :
    Computes (sub? a b) (a.toNat - b.toNat) := by
  rw [sub?, if_pos h, Computes, Option.map_some,
    UInt64.toNat_sub_of_le a b (UInt64.le_iff_toNat_le.2 h)]

theorem computes_mod? {a b : UInt64} (h : b.toNat ≠ 0) :
    Computes (mod? a b) (a.toNat % b.toNat) := by
  rw [mod?, if_neg (mt toNat_eq_zero.2 h), Computes, Option.map_some, UInt64.toNat_mod]

theorem toNat_min (a b : UInt64) : (min a b).toNat = min a.toNat b.toNat := by
  show (if a ≤ b then a else b).toNat = min a.toNat b.toNat
  by_cases h : a ≤ b
  · rw [if_pos h, Nat.min_eq_left (UInt64.le_iff_toNat_le.1 h)]
  · rw [if_neg h, Nat.min_eq_right (Nat.le_of_not_le (mt UInt64.le_iff_toNat_le.2 h))]

end Word

namespace Dialog

/-! ### Movements -/

/-- The movements of a cursor. -/
inductive Move where
  /-- To the next option. -/
  | next
  /-- To the previous option. -/
  | previous
  /-- To the option with the given index. -/
  | select (index : Nat)
  deriving DecidableEq

namespace Move

/-- The place that a movement leads to, from a place among `count` options. -/
def place (count cursor : Nat) : Move → Nat
  | next => nextCursor count cursor
  | previous => previousCursor count cursor
  | select index => selectCursor count index

/-- By how many places a movement turns the cursor; selecting an option is not a turn. -/
def turn : Move → Int
  | next => 1
  | previous => -1
  | select _ => 0

/-- The movement of a dialog as a host asks for it. -/
def operation {s : Story} (d : Dialog s) : Move → Operation s
  | next => .next d
  | previous => .previous d
  | select index => .select d index

/-- A cursor brought back among the options, in machine words. -/
def repair (count cursor : UInt64) : Option UInt64 :=
  (Word.sub? count 1).map (min cursor)

open Word in
/-- **The place as computed in machine words**, every step of the computation being checked. -/
def word (count cursor : UInt64) : Move → Option UInt64
  | next =>
    if count = 0 then some cursor
    else do
      let current ← repair count cursor
      let behind ← add? current 1
      mod? behind count
  | previous =>
    if count = 0 then some cursor
    else do
      let current ← repair count cursor
      if current = 0 then sub? count 1 else sub? current 1
  | select index => some (if index < count.toNat then .ofNat index else 0)

variable {count cursor : Nat} {m : Move}

/-- **A movement puts the cursor on an option**, if there is one. -/
theorem place_lt (h : count ≠ 0) : m.place count cursor < count := by
  cases m with
  | next => exact nextCursor_lt h cursor
  | previous => exact previousCursor_lt h cursor
  | select index => exact selectCursor_lt h index

/-- A cursor that is on an option is turned by one place. -/
theorem place_eq (h : cursor < count) (hm : ∀ index, m ≠ select index) :
    (m.place count cursor : Int) = (cursor + m.turn) % count := by
  have hcount : count ≠ 0 := Nat.ne_zero_of_lt h
  have hmin : min cursor (count - 1) = cursor := Nat.min_eq_left (Nat.le_sub_one_of_lt h)
  cases m with
  | next => rw [place, nextCursor, if_neg hcount, hmin, turn, Int.natCast_emod, Int.natCast_succ]
  | previous =>
    rw [place, previousCursor, if_neg hcount, hmin, turn]
    split
    · next hzero =>
      -- From the first place the turn leads to minus one, which is one round from the last place.
      subst hzero
      rw [← Int.add_emod_right, Int.emod_eq_of_lt (by omega) (by omega)]
      omega
    · rw [Int.emod_eq_of_lt (by omega) (by omega)]
      omega
  | select index => exact absurd rfl (hm index)

section Words

open Word

theorem computes_repair {count : UInt64} (h : count.toNat ≠ 0) (cursor : UInt64) :
    Computes (repair count cursor) (min cursor.toNat (count.toNat - 1)) := by
  have hlast : Computes (sub? count 1) (count.toNat - 1) :=
    computes_sub? (Nat.one_le_iff_ne_zero.2 h)
  obtain ⟨last, hsub, heq⟩ := Option.map_eq_some_iff.1 hlast
  rw [repair, hsub, Option.map_some, ← heq, ← toNat_min]
  exact computes_some _

theorem computes_word_next (count cursor : UInt64) :
    Computes (next.word count cursor) (nextCursor count.toNat cursor.toNat) := by
  rw [word, nextCursor]
  by_cases hzero : count = 0
  · subst hzero
    exact computes_some cursor
  have hcount : count.toNat ≠ 0 := mt toNat_eq_zero.1 hzero
  rw [if_neg hzero, if_neg hcount]
  refine (computes_repair hcount cursor).bind fun current hcurrent => ?_
  -- The cursor is among the options again, so there is room for one more.
  have hroom : current.toNat + 1 < UInt64.size := by
    have hsize : count.toNat < UInt64.size := count.toNat_lt_size
    omega
  refine (computes_add? hroom).bind fun behind hbehind => ?_
  rw [← hcurrent, show current.toNat + 1 = behind.toNat from hbehind.symm]
  exact computes_mod? hcount

theorem computes_word_previous (count cursor : UInt64) :
    Computes (previous.word count cursor) (previousCursor count.toNat cursor.toNat) := by
  rw [word, previousCursor]
  by_cases hzero : count = 0
  · subst hzero
    exact computes_some cursor
  have hcount : count.toNat ≠ 0 := mt toNat_eq_zero.1 hzero
  rw [if_neg hzero, if_neg hcount]
  refine (computes_repair hcount cursor).bind fun current hcurrent => ?_
  rw [← hcurrent]
  by_cases hfirst : current = 0
  · rw [if_pos hfirst, if_pos (toNat_eq_zero.2 hfirst)]
    exact computes_sub? (Nat.one_le_iff_ne_zero.2 hcount)
  · have hne : current.toNat ≠ 0 := mt toNat_eq_zero.1 hfirst
    rw [if_neg hfirst, if_neg hne]
    exact computes_sub? (Nat.one_le_iff_ne_zero.2 hne)

theorem computes_word_select (count cursor : UInt64) (index : Nat) :
    Computes ((select index).word count cursor) (selectCursor count.toNat index) := by
  rw [word, selectCursor]
  split
  · next hlt =>
    have hsize : index < UInt64.size := Nat.lt_trans hlt count.toNat_lt_size
    have hindex := computes_some (.ofNat index)
    rwa [UInt64.toNat_ofNat_of_lt' hsize] at hindex
  · exact computes_some 0

/-- **No step of the computation leaves the machine words**, and what is computed is the place. -/
theorem computes_word (m : Move) (count cursor : UInt64) :
    Computes (m.word count cursor) (m.place count.toNat cursor.toNat) := by
  cases m with
  | next => exact computes_word_next count cursor
  | previous => exact computes_word_previous count cursor
  | select index => exact computes_word_select count cursor index

end Words

end Move

/-! ### Runs of movements -/

/-- The place that some movements lead to, one after the other. -/
def placeAfter (count cursor : Nat) (ms : List Move) : Nat :=
  ms.foldl (fun cursor m => m.place count cursor) cursor

/-- By how many places some movements turn the cursor, one after the other. -/
def turns : List Move → Int
  | [] => 0
  | m :: ms => m.turn + turns ms

theorem turns_replicate (n : Nat) (m : Move) : turns (.replicate n m) = n * m.turn := by
  induction n with
  | zero => rw [List.replicate_zero, turns, Int.natCast_zero, Int.zero_mul]
  | succ n ih =>
    rw [List.replicate_succ, turns, ih, Int.natCast_succ, Int.add_mul, Int.one_mul, Int.add_comm]

/-- **Turns add up** modulo the number of options. -/
theorem placeAfter_eq {count cursor : Nat} (h : cursor < count) {ms : List Move}
    (hms : ∀ index, .select index ∉ ms) :
    (placeAfter count cursor ms : Int) = (cursor + turns ms) % count := by
  induction ms generalizing cursor with
  | nil =>
    rw [turns, Int.add_zero, ← Int.natCast_emod, Nat.mod_eq_of_lt h]
    rfl
  | cons m ms ih =>
    have hm : ∀ index, m ≠ .select index := by
      rintro index rfl
      exact hms index List.mem_cons_self
    have hlt : m.place count cursor < count := Move.place_lt (Nat.ne_zero_of_lt h)
    have hrest := ih hlt fun index hmem => hms index (List.mem_cons_of_mem _ hmem)
    rw [Move.place_eq h hm, Int.emod_add_emod, Int.add_assoc] at hrest
    exact hrest

variable {s : Story}

/-- A movement of a dialog. -/
def move (d : Dialog s) (play : Play s) : Move → Except PlayError (Dialog s)
  | .next => d.next play
  | .previous => d.previous play
  | .select index => d.select index play

/-- Some movements of a dialog, one after the other. -/
def moves (d : Dialog s) (play : Play s) (ms : List Move) : Except PlayError (Dialog s) :=
  ms.foldlM (fun d m => d.move play m) d

/-- A host that asks for a movement is told where it leads; the playthrough is left as it is. -/
theorem run_operation (m : Move) (d : Dialog s) (play : Play s) :
    (m.operation d).run play = .ofQuery ((d.move play m).map .moved) play := by
  cases m with
  | next => rfl
  | previous => rfl
  | select index => rfl

theorem move_eq (m : Move) (d : Dialog s) (play : Play s) :
    d.move play m = d.moveCursor (fun count cursor => m.place count cursor) play := by
  cases m with
  | next => rfl
  | previous => rfl
  | select index => rfl

variable {d d' : Dialog s} {play : Play s} {links : List s.LinkId}

theorem passage_of_move {m : Move} (h : d.move play m = .ok d') : d'.passage = d.passage := by
  rw [move_eq, moveCursor] at h
  obtain ⟨links, -, h⟩ := bind_eq_ok.1 h
  obtain rfl := Except.ok.inj h
  rfl

theorem move_of_ok (h : play.offered d.passage = .ok links) (m : Move) :
    d.move play m = .ok { d with cursor := m.place links.length d.cursor } := by
  rw [move_eq, moveCursor, h]
  rfl

/-- **A run of movements moves the cursor** and does nothing else. -/
theorem moves_of_ok (h : play.offered d.passage = .ok links) (ms : List Move) :
    d.moves play ms = .ok { d with cursor := placeAfter links.length d.cursor ms } := by
  induction ms generalizing d with
  | nil => rfl
  | cons m ms ih =>
    rw [moves, List.foldlM_cons, move_of_ok h m]
    exact ih (d := { d with cursor := m.place links.length d.cursor }) h

/-- Where turns lead, if the cursor is on an option. -/
theorem moves_of_turns (h : play.offered d.passage = .ok links) (hd : d.cursor < links.length)
    {ms : List Move} (hms : ∀ index, .select index ∉ ms) :
    d.moves play ms = .ok { d with
      cursor := ((d.cursor + turns ms) % links.length : Int).toNat } := by
  rw [moves_of_ok h, ← placeAfter_eq hd hms, Int.toNat_natCast]

/-- Turns that add up to nothing lead back. -/
theorem moves_of_turns_eq_zero (h : play.offered d.passage = .ok links)
    (hd : d.cursor < links.length) {ms : List Move} (hms : ∀ index, .select index ∉ ms)
    (hsum : turns ms = 0) : d.moves play ms = .ok d := by
  rw [moves_of_turns h hd hms, hsum, Int.add_zero, ← Int.natCast_emod, Nat.mod_eq_of_lt hd,
    Int.toNat_natCast]

/-- Where one turn leads that is done many times. -/
theorem moves_replicate (h : play.offered d.passage = .ok links) (hd : d.cursor < links.length)
    {m : Move} (hm : ∀ index, m ≠ .select index) (n : Nat) :
    d.moves play (.replicate n m) = .ok { d with
      cursor := ((d.cursor + n * m.turn) % links.length : Int).toNat } := by
  have hms : ∀ index, .select index ∉ List.replicate n m :=
    fun index hmem => hm index (List.eq_of_mem_replicate hmem).symm
  rw [moves_of_turns h hd hms, turns_replicate]

/-- Of the options of a dialog, exactly one is selected if the cursor is on one. -/
theorem exists_options_of_lt (h : play.offered d.passage = .ok links)
    (hd : d.cursor < links.length) :
    ∃ options, d.options play = .ok options ∧ (options.filter Choice.selected).length = 1 := by
  refine ⟨_, bind_eq_ok.2 ⟨links, h, rfl⟩, ?_⟩
  rw [length_filter_selected, if_pos hd]

/-- **The options of a passage stand in a circle** of `count` places, around which the cursor of a
dialog moves. -/
structure Rotates (play : Play s) (p : s.PassageId) (count : Nat) : Prop where
  /-- Where there is something to choose, any movement from any cursor leaves exactly one option
  selected. -/
  selects_one : count ≠ 0 → ∀ (cursor : Nat) (m : Move), ∃ place < count,
    move ⟨p, cursor⟩ play m = .ok ⟨p, place⟩ ∧
    ∃ options, Dialog.options ⟨p, place⟩ play = .ok options ∧
      (options.filter Choice.selected).length = 1
  /-- In machine words the place is computed without leaving them, whatever the cursor is. -/
  computed_in_words : ∀ (m : Move) (size cursor : UInt64), size.toNat = count → ∃ place,
    m.word size cursor = some place ∧ move ⟨p, cursor.toNat⟩ play m = .ok ⟨p, place.toNat⟩
  /-- A movement to the next option is undone by one to the previous option. -/
  next_undone : ∀ a < count, moves ⟨p, a⟩ play [.next, .previous] = .ok ⟨p, a⟩
  /-- A movement to the previous option is undone by one to the next option. -/
  previous_undone : ∀ a < count, moves ⟨p, a⟩ play [.previous, .next] = .ok ⟨p, a⟩
  /-- Many movements to the next option count places forwards, modulo the number of options. -/
  many_next : ∀ a < count, ∀ n : Nat,
    moves ⟨p, a⟩ play (.replicate n .next) = .ok ⟨p, (a + n) % count⟩
  /-- Many movements to the previous option count places backwards. -/
  many_previous : ∀ a < count, ∀ n : Nat,
    moves ⟨p, a⟩ play (.replicate n .previous) = .ok ⟨p, ((a - n) % count : Int).toNat⟩
  /-- Where there is nothing to choose, neither movement does anything. -/
  stays : count = 0 → ∀ d : Dialog s, d.passage = p →
    d.next play = .ok d ∧ d.previous play = .ok d

theorem rotates_of_ok {p : s.PassageId} (h : play.offered p = .ok links) :
    Rotates play p links.length where
  selects_one hne cursor m := by
    have hlt : m.place links.length cursor < links.length := Move.place_lt hne
    exact ⟨_, hlt, move_of_ok h m, exists_options_of_lt h hlt⟩
  computed_in_words m size cursor hsize := by
    obtain ⟨place, hword, hplace⟩ := Option.map_eq_some_iff.1 (m.computes_word size cursor)
    refine ⟨place, hword, ?_⟩
    rw [move_of_ok h, hplace, hsize]
  next_undone a ha := moves_of_turns_eq_zero h ha (by simp) rfl
  previous_undone a ha := moves_of_turns_eq_zero h ha (by simp) rfl
  many_next a ha n := by
    rw [moves_replicate (d := ⟨p, a⟩) h ha (by simp), Move.turn, Int.mul_one]
    rfl
  many_previous a ha n := by
    rw [moves_replicate (d := ⟨p, a⟩) h ha (by simp), Move.turn, Int.mul_neg_one]
    rfl
  stays hzero d hd := by
    subst hd
    obtain rfl := List.length_eq_zero_iff.1 hzero
    exact ⟨move_of_ok h .next, move_of_ok h .previous⟩

/-- **The cursor turns around** among the options that are offered (`Rotates`); and no movement,
whether it fails or not, changes the playthrough or leads to another passage. -/
theorem moves_rotate {p : s.PassageId} (h : play.offered p = .ok links) :
    Rotates play p links.length ∧
    ∀ (m : Move) (d : Dialog s) (now : Play s), ((m.operation d).run now).play = now ∧
      ∀ d', ((m.operation d).run now).result = .ok (.moved d') → d'.passage = d.passage := by
  refine ⟨rotates_of_ok h, fun m d now => ?_⟩
  rw [run_operation]
  refine ⟨rfl, fun d' hd' => ?_⟩
  obtain ⟨moved, hmoved, heq⟩ := map_eq_ok.1 hd'
  obtain rfl := Answer.moved.inj heq
  exact passage_of_move hmoved

end Dialog

/-! ### A street -/

/-- A street with a shop, an inn for those who have money, and a dock where the story ends. -/
def street : Story where
  title := ""
  passages := [⟨"Street", "", [], [], false⟩, ⟨"Shop", "", [], [], false⟩,
    ⟨"Inn", "", [], [], false⟩, ⟨"Dock", "", [], [], false⟩]
  links := [⟨0, 1, "Shop", [], []⟩, ⟨0, 2, "Inn", [⟨true, .hasMoney, "5"⟩], []⟩,
    ⟨0, 3, "Dock", [], []⟩]
  titles_nodup := by decide

namespace street

/-- Where the options are. -/
def middle : street.PassageId := ⟨0, by decide⟩

/-- Where the story ends. -/
def dock : street.PassageId := ⟨3, by decide⟩

/-- A walker without money, whom the inn is not offered. -/
def walker : Play street := {}

/-- In the street a cursor with the largest machine word is brought back to one of two options,
and an odd number of turns, be it ever so large, leads from the second one to the first. At the dock
nothing moves. -/
theorem moves_rotate_street :
    (∃ place < 2, Dialog.move ⟨middle, 18446744073709551615⟩ walker .next = .ok ⟨middle, place⟩ ∧
      ∃ options, Dialog.options ⟨middle, place⟩ walker = .ok options ∧
        (options.filter Choice.selected).length = 1) ∧
    (∃ place, Dialog.Move.previous.word 2 18446744073709551615 = some place ∧
      Dialog.move ⟨middle, 18446744073709551615⟩ walker .previous = .ok ⟨middle, place.toNat⟩) ∧
    Dialog.moves ⟨middle, 1⟩ walker [.next, .previous] = .ok ⟨middle, 1⟩ ∧
    Dialog.moves ⟨middle, 1⟩ walker (.replicate 1000000007 .next) = .ok ⟨middle, 0⟩ ∧
    Dialog.moves ⟨middle, 1⟩ walker (.replicate 1000000007 .previous) = .ok ⟨middle, 0⟩ ∧
    Dialog.next ⟨dock, 5⟩ walker = .ok ⟨dock, 5⟩ := by
  have hmiddle : walker.offered middle = .ok [⟨0, by decide⟩, ⟨2, by decide⟩] := by decide +kernel
  have hdock : walker.offered dock = .ok [] := by decide +kernel
  have hstreet := (Dialog.moves_rotate hmiddle).1
  have hend := (Dialog.moves_rotate hdock).1
  exact ⟨hstreet.selects_one (by simp) _ .next,
    hstreet.computed_in_words .previous 2 18446744073709551615 rfl,
    hstreet.next_undone 1 (by decide), hstreet.many_next 1 (by decide) 1000000007,
    hstreet.many_previous 1 (by decide) 1000000007, (hend.stays rfl ⟨dock, 5⟩ rfl).1⟩

end street

end Skein
