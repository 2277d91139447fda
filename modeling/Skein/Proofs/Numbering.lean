import Skein.Preview
import Skein.Proofs.Deeds
import Skein.Proofs.History
import Skein.Proofs.PlainText

/-!
# Options by number

The preview shows options with numbers that count from one, and `go` takes an option by its number.
The numbers of a line are read as they are printed (`Text.readIndex?_toDigits`), and a number that
is printed takes the option that it is printed with (`Shell.showOptions_of_shown`), and nothing
else.

A number that is not shown is no number of an option, but it is not refused either: the cursor goes
to the first option then, as it does for any host that selects an index out of range, and the
confirmation takes what is at the cursor. So a number that is too large takes the first option
(`Shell.obey_go`), and it takes nothing only where nothing is shown.

## Main definitions

* `Play.afterTaking` — the playthrough in which a link was taken, or none
* `Shell.shown` — the links of the options that are shown, by their numbers
* `Shell.taken?` — the link that is taken for a number

## Main results

* `Command.read_go` — a line with `go` and a number is read as it is printed
* `Shell.showOptions_of_shown` — the number with which an option is printed
* `Shell.went_snd` — what is taken for a number
* `Shell.obey_go` — the same for the line that is typed, with what is printed and the marks that it
  leaves
-/

namespace Skein

/-! ### Numbers -/

namespace Text

theorem isBlank_of_isDigit {c : Char} (h : c.isDigit = true) : isBlank c = false := by
  have hrange : 48 ≤ c.toNat ∧ c.toNat ≤ 57 := by
    simp only [Char.isDigit, Bool.and_eq_true, decide_eq_true_eq, UInt32.le_iff_toNat_le] at h
    exact h
  simp [isBlank]
  omega

theorem isDigit_of_mem_toDigits {n : Nat} : ∀ c ∈ Nat.toDigits 10 n, c.isDigit = true :=
  fun _ => Nat.isDigit_of_mem_toDigits (by decide) (by decide)

/-- Digits have no blanks around them. -/
theorem trim_toDigits (n : Nat) : trim (Nat.toDigits 10 n) = Nat.toDigits 10 n :=
  trim_eq_self_iff.2
    ⟨fun c hc => isBlank_of_isDigit (isDigit_of_mem_toDigits c (List.mem_of_mem_head? hc)),
      fun c hc => isBlank_of_isDigit (isDigit_of_mem_toDigits c (List.mem_of_getLast? hc))⟩

theorem readDigits?_toDigits (n : Nat) : readDigits? (Nat.toDigits 10 n) = some n := by
  rw [readDigits?, if_pos ⟨Nat.toDigits_ne_nil, List.all_eq_true.2 isDigit_of_mem_toDigits⟩]
  exact congrArg some Nat.ofDigitChars_ten_toDigits

/-- **Numbers are read as they are printed.** -/
theorem readIndex?_toDigits {n : Nat} (h : n < 0x10000000000000000) :
    readIndex? (Nat.toDigits 10 n) = some n := by
  have hvalue : readIndex? (Nat.toDigits 10 n) =
      (readDigits? (Nat.toDigits 10 n)).filter (· < 0x10000000000000000) := by
    cases hdigits : Nat.toDigits 10 n with
    | nil => rfl
    | cons c rest =>
      have hc : c ≠ '+' := by
        rintro rfl
        have hdigit : ('+' : Char).isDigit = true :=
          isDigit_of_mem_toDigits '+' (hdigits ▸ List.mem_cons_self)
        exact absurd hdigit (by decide)
      rw [readIndex?]
      simp [hc]
  rw [hvalue, readDigits?_toDigits]
  simp [h]

end Text

namespace Command

open Text

/-- The command to take an option by its number. -/
theorem read_go {n : Nat} (hpos : 1 ≤ n) (hword : n < 0x10000000000000000) :
    read ("go " ++ toString n) = some (go n) := by
  have htext : ("go " ++ toString n).toList = "go".toList ++ ' ' :: Nat.toDigits 10 n := by
    simp [Nat.toString_eq_repr]
  have htrim : trim ("go".toList ++ ' ' :: Nat.toDigits 10 n) =
      "go".toList ++ ' ' :: Nat.toDigits 10 n := by
    obtain ⟨d, hd⟩ : ∃ d, (Nat.toDigits 10 n).getLast? = some d :=
      ⟨_, List.getLast?_eq_some_getLast Nat.toDigits_ne_nil⟩
    refine trim_append_eq_self (d := d) (by decide) (by simp [isBlank]) ?_ ?_
    · rw [List.getLast?_cons, hd]
      rfl
    · exact isBlank_of_isDigit (isDigit_of_mem_toDigits d (List.mem_of_getLast? hd))
  have hcut : cutWhere (· == ' ') ("go".toList ++ ' ' :: Nat.toDigits 10 n) =
      some ("go".toList, Nat.toDigits 10 n) :=
    cutWhere_append_cons (List.all_iff_forall_prop.1 (by decide)) (by decide) _
  obtain ⟨m, rfl⟩ : ∃ m, n = m + 1 := ⟨n - 1, by omega⟩
  rw [read, htext, htrim, if_neg (by simp), ofLine, hcut]
  dsimp only [Option.getD_some]
  rw [trim_toDigits, readIndex?_toDigits hword]
  rfl

end Command

/-! ### What is taken -/

/-- The playthrough in which a link was taken, or none. -/
def Play.afterTaking {s : Story} (play : Play s) : Option s.LinkId → Play s
  | none => play
  | some l => (play.follow l).play

section Play

variable {s : Story} {play : Play s} {taken : Option s.LinkId}

theorem Play.get_taken_afterTaking {l : s.LinkId} :
    (play.afterTaking taken).taken.get l = true ↔ taken = some l ∨ play.taken.get l = true := by
  cases taken with
  | none => simp [afterTaking]
  | some e => rw [afterTaking, get_taken_follow, Option.some.injEq]

theorem Play.get_visited_afterTaking {p : s.PassageId} :
    (play.afterTaking taken).visited.get p = true ↔
      (taken.map fun l => (s.link l).target) = some p ∨ play.visited.get p = true := by
  cases taken with
  | none => simp [afterTaking]
  | some e =>
    rw [afterTaking, visited_follow, get_markVisited, Bool.or_eq_true, decide_eq_true_eq,
      Option.map_some, Option.some.injEq, eq_comm]

/-- What is at the cursor after a number was selected: what has the number, or else what is
first. -/
theorem Dialog.getElem?_selectCursor {α : Type} (l : List α) (n : Nat) :
    l[selectCursor l.length (n - 1)]? = if n ≤ l.length then l[n - 1]? else l.head? := by
  rw [selectCursor, List.head?_eq_getElem?]
  by_cases hshown : n ≤ l.length
  · rw [if_pos hshown]
    split
    · rfl
    · -- no index is before the first number, so nothing can be out of range but in an empty list
      obtain rfl : l = [] := List.eq_nil_of_length_eq_zero (by omega)
      rfl
  · rw [if_neg hshown, if_neg (by omega)]

/-- **A confirmation takes what is at the cursor.** -/
theorem Dialog.play_confirm (d : Dialog s) (play : Play s) :
    (d.confirm play).1.play = play.afterTaking (d.selected? play) := by
  cases hselected : d.selected? play with
  | none => exact (play_confirm_of_not_selected hselected).1
  | some l =>
    rw [confirm_of_selected hselected]
    rfl

end Play

namespace Shell

/-- The links of the options that are shown, in their order; the first has the number one. -/
def shown (sh : Shell) : List sh.story.LinkId :=
  match sh.dialog.options sh.play with
  | .error _ => []
  | .ok options => options.map Choice.link

theorem options_of_ok {sh : Shell} {links : List sh.story.LinkId}
    (h : sh.play.offered sh.dialog.passage = .ok links) :
    sh.dialog.options sh.play =
      .ok (links.mapIdx fun i l => ⟨l, (sh.story.link l).text, i == sh.dialog.cursor⟩) := by
  rw [Dialog.options, h]
  rfl

theorem shown_of_error {sh : Shell} {e : PlayError}
    (h : sh.play.offered sh.dialog.passage = .error e) : sh.shown = [] := by
  rw [shown, Dialog.options, h]
  rfl

theorem shown_of_ok {sh : Shell} {links : List sh.story.LinkId}
    (h : sh.play.offered sh.dialog.passage = .ok links) : sh.shown = links := by
  rw [shown, options_of_ok h]
  refine List.ext_getElem (by simp) fun i hi hj => ?_
  simp

/-- **The options are printed with their numbers.** -/
theorem showOptions_of_shown {sh : Shell} (h : sh.shown ≠ []) :
    sh.showOptions = "\n" ++ String.join (sh.shown.mapIdx fun i l =>
      sh.optionLine (i + 1) ⟨l, (sh.story.link l).text, i == sh.dialog.cursor⟩) := by
  cases hoffered : sh.play.offered sh.dialog.passage with
  | error e => exact absurd (shown_of_error hoffered) h
  | ok links =>
    rw [shown_of_ok hoffered] at h ⊢
    obtain ⟨l, rest, rfl⟩ := List.exists_cons_of_ne_nil h
    rw [showOptions, options_of_ok hoffered, List.mapIdx_cons]
    dsimp only
    congr 2
    refine List.ext_getElem (by simp) fun i hi hj => ?_
    cases i with
    | zero => simp
    | succ i => simp [Nat.add_comm 1]

/-- The link that is taken for a number: the one that is shown with it, or else the first one. -/
def taken? (sh : Shell) (n : Nat) : Option sh.story.LinkId :=
  if n ≤ sh.shown.length then sh.shown[n - 1]? else sh.shown.head?

/-- **What is taken for a number.** -/
theorem went_snd (sh : Shell) (n : Nat) :
    ∃ dialog, (sh.went n).2 = ⟨sh.story, sh.play.afterTaking (sh.taken? n), dialog⟩ := by
  cases hoffered : sh.play.offered sh.dialog.passage with
  | error e =>
    have hselect : sh.dialog.select (n - 1) sh.play = .error e := by
      rw [Dialog.select, Dialog.moveCursor, hoffered]
      rfl
    have htaken : sh.taken? n = none := by
      rw [taken?, shown_of_error hoffered]
      simp
    rw [went, hselect, htaken]
    exact ⟨sh.dialog, rfl⟩
  | ok links =>
    let d : Dialog sh.story :=
      { sh.dialog with cursor := Dialog.selectCursor links.length (n - 1) }
    have hselect : sh.dialog.select (n - 1) sh.play = .ok d := by
      rw [Dialog.select, Dialog.moveCursor, hoffered]
      rfl
    have htaken : d.selected? sh.play = sh.taken? n := by
      rw [taken?, shown_of_ok hoffered, ← Dialog.getElem?_selectCursor, Dialog.selected?]
      show (sh.play.offered sh.dialog.passage).toOption.bind _ = _
      rw [hoffered]
      rfl
    rw [went, hselect, ← htaken, ← Dialog.play_confirm]
    exact ⟨(d.confirm sh.play).2, rfl⟩

theorem obey_snd_of_read {sh : Shell} {line : String} {n : Nat}
    (h : Command.read line = some (.go n)) : (sh.obey line).2 = some (sh.went n).2 := by
  rw [obey, h]
  rfl

/-- **A number takes the option that is shown with it, or else the first one.** The line with `go`
and the number is the command for it; there may be other spellings. The links that are shown are
printed in their order, each with the text of its link and a number, from one upwards. Whichever
line states the command takes at most one link: if there are so many options, the link that is
printed with the number; otherwise the link that is printed first, and none only if none is shown.
Apart from the effects of the visit nothing happens: no other link is marked as taken, and no other
passage as visited. -/
theorem obey_go (sh : Shell) {n : Nat} (hpos : 1 ≤ n) (hword : n < 0x10000000000000000) :
    Command.read ("go " ++ toString n) = some (.go n) ∧
      (sh.shown ≠ [] → sh.showOptions = "\n" ++ String.join (sh.shown.mapIdx fun i l =>
        sh.optionLine (i + 1) ⟨l, (sh.story.link l).text, i == sh.dialog.cursor⟩)) ∧
      ∀ line, Command.read line = some (.go n) → ∃ taken dialog,
        (sh.obey line).2 = some ⟨sh.story, sh.play.afterTaking taken, dialog⟩ ∧
          (n ≤ sh.shown.length → ∃ l, sh.shown[n - 1]? = some l ∧ taken = some l) ∧
          (sh.shown.length < n → taken = sh.shown.head?) ∧
          (∀ l, (sh.play.afterTaking taken).taken.get l = true ↔
            taken = some l ∨ sh.play.taken.get l = true) ∧
          ∀ p, (sh.play.afterTaking taken).visited.get p = true ↔
            (taken.map fun l => (sh.story.link l).target) = some p ∨
              sh.play.visited.get p = true := by
  refine ⟨Command.read_go hpos hword, showOptions_of_shown, fun line hline => ?_⟩
  obtain ⟨dialog, hdialog⟩ := sh.went_snd n
  refine ⟨sh.taken? n, dialog, ?_, fun hn => ?_, fun hn => ?_,
    fun _ => Play.get_taken_afterTaking, fun _ => Play.get_visited_afterTaking⟩
  · rw [obey_snd_of_read hline, hdialog]
  · have hl : sh.shown[n - 1]? = some (sh.shown.get ⟨n - 1, by omega⟩) :=
      List.getElem?_eq_getElem _
    exact ⟨_, hl, by rw [taken?, if_pos hn, hl]⟩
  · rw [taken?, if_neg (Nat.not_le.2 hn)]

/-- A street with a shop, in which there is bread, and an inn. -/
def streetScript : String :=
  ":: Street\n[[Shop]]\n[[Inn]]\n:: Shop\naddItem: bread\n--\nFresh bread.\n:: Inn\nClosed.\n"

/-- A place where every file holds the script of the street. -/
def streetFiles : FileAccess Id where
  readText _ := .ok streetScript
  isFile _ := true
  writeText _ _ := .ok ()

/-- The state of the preview at the street. -/
def street? : Option Shell :=
  (Preview.start streetFiles ["street.twee", "--start", "Street"]).toOption.map Prod.snd

/-- The inn is printed with the second number, and that number takes it; the third number takes
what is printed first, the shop. -/
theorem obey_go_street :
    ∃ sh, street? = some sh ∧ sh.shown.length = 2 ∧
      sh.showOptions = "\n> 1. Shop\n  2. Inn\n" ∧
      sh.showOptions = "\n" ++ String.join (sh.shown.mapIdx fun i l =>
        sh.optionLine (i + 1) ⟨l, (sh.story.link l).text, i == sh.dialog.cursor⟩) ∧
      (∃ taken dialog, (sh.obey "go 2").2 = some ⟨sh.story, sh.play.afterTaking taken, dialog⟩ ∧
        ∃ l, sh.shown[1]? = some l ∧ taken = some l) ∧
      ∃ taken dialog, (sh.obey "go 3").2 = some ⟨sh.story, sh.play.afterTaking taken, dialog⟩ ∧
        taken = sh.shown.head? := by
  have hshown : street?.map (fun sh => (sh.shown.length, sh.showOptions)) =
      some (2, "\n> 1. Shop\n  2. Inn\n") := by
    decide +kernel
  obtain ⟨sh, hsh, hall⟩ := Option.map_eq_some_iff.1 hshown
  obtain ⟨htwo, hprinted⟩ := Prod.mk.inj hall
  have hne : sh.shown ≠ [] := List.ne_nil_of_length_pos (by omega)
  obtain ⟨hread, hnumbered, hgo⟩ := obey_go sh (n := 2) (by decide) (by decide)
  obtain ⟨taken, dialog, hafter, htaken, -⟩ := hgo _ hread
  obtain ⟨hread', -, hgo'⟩ := obey_go sh (n := 3) (by decide) (by decide)
  obtain ⟨taken', dialog', hafter', -, htaken', -⟩ := hgo' _ hread'
  exact ⟨sh, hsh, htwo, hprinted, hnumbered hne, ⟨taken, dialog, hafter, htaken (by omega)⟩,
    taken', dialog', hafter', htaken' (by omega)⟩

/-- What the playthrough has left so far: the marks of links and of passages, and the items. -/
def traces (sh : Shell) : List Bool × List Bool × List Item :=
  (sh.play.taken.toList, sh.play.visited.toList, sh.play.player.items)

/-- In the street, where two options are shown, the third one is taken as if it were the shop: the
way to the shop is marked as taken, the shop as visited, and the player has the bread. -/
theorem street_takes_unshown :
    ∃ sh after, street? = some sh ∧ sh.shown.length = 2 ∧
      (sh.obey "go 3").2 = some after ∧
      sh.traces = ([false, false], [true, false, false], []) ∧
      after.traces = ([true, false], [true, true, false], [⟨"bread", 1⟩]) := by
  have hbefore : street?.map (fun sh => (sh.shown.length, sh.traces)) =
      some (2, [false, false], [true, false, false], []) := by
    decide +kernel
  have hobeyed : (street?.bind fun sh => (sh.obey "go 3").2.map traces) =
      some ([true, false], [true, true, false], [⟨"bread", 1⟩]) := by
    decide +kernel
  obtain ⟨sh, hsh, hall⟩ := Option.map_eq_some_iff.1 hbefore
  obtain ⟨hshown, htraces⟩ := Prod.mk.inj hall
  rw [hsh, Option.bind_some] at hobeyed
  obtain ⟨after, hafter, htraces'⟩ := Option.map_eq_some_iff.1 hobeyed
  exact ⟨sh, after, hsh, hshown, hafter, htraces, htraces'⟩

end Shell

end Skein
