import Mathlib.Data.List.Induction
import Skein.Change

/-!
# What is held, and since when

Items change hands one by one, and of what has happened two things are to be remembered: how many
items of each name are held, and in which order the names came to be held. The item list remembers
both, and the history that it stands for is written down here on its own: the number of items of a
name is counted through the handovers, and a name is acquired where that number goes from zero to
one. A name that was given away altogether and comes back is acquired anew and stands at the end.

The list can do this because no name stands in it twice and none with a count of zero. With either,
most of what follows would be wrong: a name that is found first would hide the other, and a count of
zero would be held without there being an item.

## Main definitions

* `Handover`, `Player.afterHandovers` — items that are gained and given away one by one
* `held` — how many items of a name are held after some handovers
* `AcquiredAt`, `LastAcquiredAt` — where the number of items of a name goes from zero to one
* `Items.Records` — the list says what was handed over
* `Player.Reflects` — all that can be told of handovers from the list

## Main results

* `Items.count_of_remove?`, `Items.remove?_add` — giving away what was gained
* `Items.Records.add`, `Items.Records.remove` — what one handover does
* `Player.records_afterHandovers` — the list says what was handed over
* `Player.Reflects.of_records` — all that can be told is told by counts and order
* `Player.items_refine_handovers` — all that can be told from it is true
-/

namespace Skein

/-! ### Items by name -/

namespace Items

variable {name other : String} {items rest : List Item}

theorem count_cons (item : Item) (items : List Item) (name : String) :
    count (item :: items) name = if item.name = name then item.count else count items name := by
  by_cases h : item.name = name
  · simp [count, h]
  · simp [count, h]

theorem hasName_iff : items.any (·.name = name) = true ↔ name ∈ items.map Item.name := by
  simp [List.any_eq_true]

/-- A name that is not listed has no items. -/
theorem count_of_not_mem (h : name ∉ items.map Item.name) : count items name = 0 := by
  induction items with
  | nil => rfl
  | cons item items ih =>
    obtain ⟨hne, hrest⟩ := not_or.1 (mt List.mem_cons.2 h)
    rw [count_cons, if_neg fun heq => hne heq.symm, ih hrest]

/-- If nothing is listed with a count of zero, then the names that are listed are those with
items. -/
theorem count_pos_iff (hpos : ∀ item ∈ items, 1 ≤ item.count) :
    0 < count items name ↔ name ∈ items.map Item.name := by
  induction items with
  | nil => simp [count]
  | cons item items ih =>
    obtain ⟨hitem, hitems⟩ := List.forall_mem_cons.1 hpos
    rw [count_cons, List.map_cons, List.mem_cons]
    by_cases h : item.name = name
    · rw [if_pos h]
      exact iff_of_true hitem (.inl h.symm)
    · rw [if_neg h, ih hitems, or_iff_right fun heq => h heq.symm]

/-! ### One item more -/

theorem map_name_add (name : String) (items : List Item) :
    (add name items).map Item.name =
      if name ∈ items.map Item.name then items.map Item.name
      else items.map Item.name ++ [name] := by
  induction items with
  | nil => rfl
  | cons item items ih =>
    rw [add]
    by_cases h : item.name = name
    · rw [if_pos h, if_pos (by rw [← h]; exact List.mem_cons_self)]
      rfl
    · have hmem : name ∈ (item :: items).map Item.name ↔ name ∈ items.map Item.name :=
        List.mem_cons.trans (or_iff_right fun heq => h heq.symm)
      rw [if_neg h, List.map_cons, ih]
      by_cases hrest : name ∈ items.map Item.name
      · rw [if_pos hrest, if_pos (hmem.2 hrest), List.map_cons]
      · rw [if_neg hrest, if_neg (mt hmem.1 hrest), List.map_cons, List.cons_append]

theorem one_le_count_add (hpos : ∀ item ∈ items, 1 ≤ item.count) :
    ∀ item ∈ add name items, 1 ≤ item.count := by
  induction items with
  | nil => exact List.forall_mem_singleton.2 (Nat.le_refl 1)
  | cons item items ih =>
    obtain ⟨hitem, hitems⟩ := List.forall_mem_cons.1 hpos
    rw [add]
    split
    · exact List.forall_mem_cons.2 ⟨Nat.le_add_left 1 _, hitems⟩
    · exact List.forall_mem_cons.2 ⟨hitem, ih hitems⟩

/-! ### One item less -/

theorem remove?_cons_of_ne {item : Item} (h : item.name ≠ name) (items : List Item) :
    remove? name (item :: items) = (remove? name items).map (item :: ·) := by
  rw [remove?, if_neg h]

theorem remove?_eq_none_iff : remove? name items = none ↔ name ∉ items.map Item.name := by
  rw [← Option.not_isSome_iff_eq_none, isSome_remove?, hasName_iff]

/-- The names that are left are in the same order. -/
theorem map_name_sublist_of_remove? (h : remove? name items = some rest) :
    (rest.map Item.name).Sublist (items.map Item.name) := by
  induction items generalizing rest with
  | nil => cases h
  | cons item items ih =>
    by_cases hname : item.name = name
    · rw [remove?, if_pos hname] at h
      obtain rfl := Option.some.inj h
      split
      · exact List.Sublist.refl _
      · exact List.sublist_cons_self _ _
    · rw [remove?_cons_of_ne hname] at h
      obtain ⟨shorter, hshorter, rfl⟩ := Option.map_eq_some_iff.1 h
      exact (ih hshorter).cons_cons _

theorem one_le_count_of_remove? (hpos : ∀ item ∈ items, 1 ≤ item.count)
    (h : remove? name items = some rest) : ∀ item ∈ rest, 1 ≤ item.count := by
  induction items generalizing rest with
  | nil => cases h
  | cons item items ih =>
    obtain ⟨hitem, hitems⟩ := List.forall_mem_cons.1 hpos
    by_cases hname : item.name = name
    · rw [remove?, if_pos hname] at h
      obtain rfl := Option.some.inj h
      split
      · next hmany => exact List.forall_mem_cons.2 ⟨Nat.le_sub_one_of_lt hmany, hitems⟩
      · exact hitems
    · rw [remove?_cons_of_ne hname] at h
      obtain ⟨shorter, hshorter, rfl⟩ := Option.map_eq_some_iff.1 h
      exact List.forall_mem_cons.2 ⟨hitem, ih hitems hshorter⟩

/-- Removing changes one count by one. The name may not be listed twice, or its second count would
come to light. -/
theorem count_of_remove? (hnodup : (items.map Item.name).Nodup)
    (h : remove? name items = some rest) (other : String) :
    count rest other = count items other - if other = name then 1 else 0 := by
  induction items generalizing rest with
  | nil => cases h
  | cons item items ih =>
    obtain ⟨hfresh, hitems⟩ := List.nodup_cons.1 hnodup
    by_cases hname : item.name = name
    · rw [remove?, if_pos hname] at h
      obtain rfl := Option.some.inj h
      subst hname
      by_cases hother : other = item.name
      · subst hother
        rw [count_cons, if_pos rfl, if_pos rfl]
        split
        · rw [count_cons, if_pos rfl]
        · next hfew =>
          rw [count_of_not_mem hfresh]
          omega
      · rw [if_neg hother, Nat.sub_zero, count_cons, if_neg (Ne.symm hother)]
        split
        · rw [count_cons, if_neg (Ne.symm hother)]
        · rfl
    · rw [remove?_cons_of_ne hname] at h
      obtain ⟨shorter, hshorter, rfl⟩ := Option.map_eq_some_iff.1 h
      rw [count_cons, count_cons, ih hitems hshorter]
      by_cases hitem : item.name = other
      · rw [if_pos hitem, if_pos hitem, if_neg fun heq => hname (hitem.trans heq), Nat.sub_zero]
      · rw [if_neg hitem, if_neg hitem]

/-- **What was gained can be given away**, and then the list is as before, its order included. -/
theorem remove?_add (hpos : ∀ item ∈ items, 1 ≤ item.count) (name : String) :
    remove? name (add name items) = some items := by
  induction items with
  | nil =>
    rw [add, remove?, if_pos rfl]
    rfl
  | cons item items ih =>
    obtain ⟨hitem, hitems⟩ := List.forall_mem_cons.1 hpos
    rw [add]
    by_cases hname : item.name = name
    · rw [if_pos hname, remove?, if_pos hname, if_pos (Nat.lt_succ_of_le hitem)]
      rfl
    · rw [if_neg hname, remove?_cons_of_ne hname, ih hitems]
      rfl

end Items

/-! ### Handovers -/

/-- An item that changes hands. -/
inductive Handover where
  /-- One more item of the name. -/
  | gain (name : String)
  /-- One item of the name less, if any is held. -/
  | give (name : String)
  deriving DecidableEq

namespace Handover

/-- The player after a handover. -/
def apply (p : Player) : Handover → Player
  | gain name => p.addItem name
  | give name => p.takeItem name

/-- What becomes of the number of items of a name; it does not go below zero. -/
def tally (name : String) (k : Nat) : Handover → Nat
  | gain other => if name = other then k + 1 else k
  | give other => k - if name = other then 1 else 0

/-- From zero a number can only go to one. -/
theorem tally_zero_eq_one {name : String} {h : Handover} (hpos : 0 < h.tally name 0) :
    h.tally name 0 = 1 := by
  cases h with
  | gain other =>
    rw [tally] at hpos ⊢
    split
    · rfl
    · next hne =>
      rw [if_neg hne] at hpos
      exact absurd hpos (Nat.lt_irrefl 0)
  | give other =>
    rw [tally, Nat.zero_sub] at hpos
    exact absurd hpos (Nat.lt_irrefl 0)

end Handover

/-- The player after some handovers. -/
def Player.afterHandovers (p : Player) (hs : List Handover) : Player :=
  hs.foldl Handover.apply p

/-- How many items of a name are held after some handovers, if nothing was held before. -/
def held (hs : List Handover) (name : String) : Nat :=
  hs.foldl (Handover.tally name) 0

theorem held_concat (hs : List Handover) (h : Handover) (name : String) :
    held (hs ++ [h]) name = h.tally name (held hs name) := by
  rw [held, List.foldl_append]
  rfl

/-! ### Since when something is held -/

/-- By the handover at place `i` the number of items of a name goes from zero to one. -/
def AcquiredAt (hs : List Handover) (name : String) (i : Nat) : Prop :=
  held (hs.take i) name = 0 ∧ held (hs.take (i + 1)) name = 1

/-- The place of the latest handover by which the number of items of a name goes from zero to
one. -/
def LastAcquiredAt (hs : List Handover) (name : String) (i : Nat) : Prop :=
  AcquiredAt hs name i ∧ ∀ j, AcquiredAt hs name j → j ≤ i

section Acquired

variable {hs : List Handover} {h : Handover} {name : String} {i : Nat}

theorem lt_length_of_acquiredAt (hi : AcquiredAt hs name i) : i < hs.length := by
  refine Nat.lt_of_not_le fun hle => ?_
  obtain ⟨hzero, hone⟩ := hi
  rw [List.take_of_length_le hle] at hzero
  rw [List.take_of_length_le (Nat.le_succ_of_le hle), hzero] at hone
  cases hone

/-- One handover more leaves the earlier places as they are. -/
theorem acquiredAt_concat :
    AcquiredAt (hs ++ [h]) name i ↔
      AcquiredAt hs name i ∨ i = hs.length ∧ held hs name = 0 ∧ held (hs ++ [h]) name = 1 := by
  rcases Nat.lt_trichotomy i hs.length with hlt | rfl | hgt
  · rw [AcquiredAt, AcquiredAt, List.take_append_of_le_length hlt,
      List.take_append_of_le_length (Nat.le_of_lt hlt),
      or_iff_left fun hlast => Nat.ne_of_lt hlt hlast.1]
  · have hno : ¬AcquiredAt hs name hs.length := fun hi =>
      Nat.lt_irrefl _ (lt_length_of_acquiredAt hi)
    have hlength : (hs ++ [h]).length ≤ hs.length + 1 := Nat.le_of_eq List.length_append
    rw [or_iff_right hno, and_iff_right rfl, AcquiredAt, List.take_left,
      List.take_of_length_le hlength]
  · refine iff_of_false (fun hi => ?_) ?_
    · have hlt := lt_length_of_acquiredAt hi
      rw [List.length_append, List.length_singleton] at hlt
      exact Nat.not_lt_of_ge hgt hlt
    · rintro (hi | ⟨rfl, -⟩)
      · exact Nat.not_lt_of_gt hgt (lt_length_of_acquiredAt hi)
      · exact Nat.lt_irrefl _ hgt

theorem lastAcquiredAt_concat (hold : ¬(held hs name = 0 ∧ held (hs ++ [h]) name = 1)) :
    LastAcquiredAt (hs ++ [h]) name i ↔ LastAcquiredAt hs name i := by
  have hsame : ∀ j, AcquiredAt (hs ++ [h]) name j ↔ AcquiredAt hs name j := fun j => by
    rw [acquiredAt_concat, or_iff_left fun hnew => hold hnew.2]
  simp only [LastAcquiredAt, hsame]

theorem lastAcquiredAt_length (hzero : held hs name = 0) (hone : held (hs ++ [h]) name = 1) :
    LastAcquiredAt (hs ++ [h]) name hs.length := by
  refine ⟨acquiredAt_concat.2 (.inr ⟨rfl, hzero, hone⟩), fun j hj => ?_⟩
  rcases acquiredAt_concat.1 hj with hj | ⟨rfl, -⟩
  · exact Nat.le_of_lt (lt_length_of_acquiredAt hj)
  · exact Nat.le_refl _

/-- **What is held was acquired** at some place, and at one for the last time. -/
theorem exists_lastAcquiredAt (hpos : 0 < held hs name) : ∃ i, LastAcquiredAt hs name i := by
  induction hs using List.reverseRecOn with
  | nil => exact absurd hpos (Nat.lt_irrefl 0)
  | append_singleton hs h ih =>
    by_cases hzero : held hs name = 0
    · have hone : held (hs ++ [h]) name = 1 := by
        rw [held_concat, hzero] at hpos ⊢
        exact Handover.tally_zero_eq_one hpos
      exact ⟨_, lastAcquiredAt_length hzero hone⟩
    · obtain ⟨i, hi⟩ := ih (Nat.pos_of_ne_zero hzero)
      exact ⟨i, (lastAcquiredAt_concat fun hnew => hzero hnew.1).2 hi⟩

end Acquired

/-! ### The list says what was handed over -/

/-- The first of two names was acquired before the second. -/
def AcquiredBefore (hs : List Handover) (name other : String) : Prop :=
  ∀ i j, LastAcquiredAt hs name i → LastAcquiredAt hs other j → i < j

/-- **The list says what was handed over**: how many items of each name are held, and in which order
the names were acquired. -/
structure Items.Records (hs : List Handover) (items : List Item) : Prop where
  nodup : (items.map Item.name).Nodup
  one_le_count : ∀ item ∈ items, 1 ≤ item.count
  count_eq : ∀ name, count items name = held hs name
  ordered : (items.map Item.name).Pairwise (AcquiredBefore hs)

namespace Items.Records

variable {hs : List Handover} {h : Handover} {items rest : List Item} {name : String}

theorem nil : Records [] [] :=
  ⟨List.Pairwise.nil, List.forall_mem_nil _, fun _ => rfl, List.Pairwise.nil⟩

theorem mem_iff (hr : Records hs items) : name ∈ items.map Item.name ↔ 0 < held hs name := by
  rw [← hr.count_eq, count_pos_iff hr.one_le_count]

/-- Names that were listed before and after a handover are in the same order: they were not acquired
by it. -/
theorem pairwise_concat (hr : Records hs items) {names : List String}
    (hnames : names.Sublist (items.map Item.name)) :
    names.Pairwise (AcquiredBefore (hs ++ [h])) := by
  have hkept : ∀ {name : String} {i : Nat}, name ∈ names →
      LastAcquiredAt (hs ++ [h]) name i → LastAcquiredAt hs name i := by
    intro name i hmem hi
    have hpos := hr.mem_iff.1 (hnames.subset hmem)
    exact (lastAcquiredAt_concat fun hnew => Nat.ne_of_gt hpos hnew.1).1 hi
  refine List.Pairwise.imp_of_mem ?_ (hr.ordered.sublist hnames)
  intro name other hname hother hbefore i j hi hj
  exact hbefore i j (hkept hname hi) (hkept hother hj)

/-- **One item more** of a name that is listed, or of a name that is acquired now. -/
theorem add (hr : Records hs items) (name : String) :
    Records (hs ++ [.gain name]) (Items.add name items) := by
  have hcount : ∀ other, count (Items.add name items) other = held (hs ++ [.gain name]) other := by
    intro other
    rw [count_add, hr.count_eq, held_concat, Handover.tally]
    split
    · rfl
    · rfl
  refine ⟨?_, one_le_count_add hr.one_le_count, hcount, ?_⟩
  · rw [map_name_add]
    split
    · exact hr.nodup
    · next hnew =>
      refine List.nodup_append.2 ⟨hr.nodup, List.pairwise_singleton _ _, ?_⟩
      rintro other hother _ hname rfl
      exact hnew (List.mem_singleton.1 hname ▸ hother)
  · rw [map_name_add]
    split
    · exact hr.pairwise_concat (List.Sublist.refl _)
    · next hnew =>
      have hzero : held hs name = 0 := Nat.eq_zero_of_not_pos (mt hr.mem_iff.2 hnew)
      have hone : held (hs ++ [.gain name]) name = 1 := by
        rw [held_concat, hzero, Handover.tally, if_pos rfl]
      refine List.pairwise_append.2 ⟨hr.pairwise_concat (List.Sublist.refl _),
        List.pairwise_singleton _ _, ?_⟩
      intro other hother _ hname i j hi hj
      obtain rfl := List.mem_singleton.1 hname
      -- The new name is acquired now, and every other one was acquired before.
      have hpos := hr.mem_iff.1 hother
      have hearlier := (lastAcquiredAt_concat fun hnew => Nat.ne_of_gt hpos hnew.1).1 hi
      calc i < hs.length := lt_length_of_acquiredAt hearlier.1
        _ ≤ j := hj.2 _ (lastAcquiredAt_length hzero hone).1

/-- **One item less** of a name that is listed. -/
theorem remove (hr : Records hs items) (hremove : remove? name items = some rest) :
    Records (hs ++ [.give name]) rest := by
  have hsublist := map_name_sublist_of_remove? hremove
  refine ⟨hr.nodup.sublist hsublist, one_le_count_of_remove? hr.one_le_count hremove, ?_,
    hr.pairwise_concat hsublist⟩
  intro other
  rw [count_of_remove? hr.nodup hremove, hr.count_eq, held_concat, Handover.tally]

/-- Nothing changes if a name is not listed. -/
theorem keep (hr : Records hs items) (hremove : remove? name items = none) :
    Records (hs ++ [.give name]) items := by
  refine ⟨hr.nodup, hr.one_le_count, fun other => ?_, hr.pairwise_concat (List.Sublist.refl _)⟩
  rw [hr.count_eq, held_concat, Handover.tally]
  split
  · next heq =>
    have hzero : held hs name = 0 :=
      Nat.eq_zero_of_not_pos (mt hr.mem_iff.2 (remove?_eq_none_iff.1 hremove))
    rw [heq, hzero]
  · rfl

end Items.Records

namespace Player

theorem takeItem_of_none {p : Player} {name : String} (h : Items.remove? name p.items = none) :
    p.takeItem name = p := by
  rw [takeItem, takeItem?, h]
  rfl

theorem takeItem_of_some {p : Player} {name : String} {rest : List Item}
    (h : Items.remove? name p.items = some rest) : p.takeItem name = { p with items := rest } := by
  rw [takeItem, takeItem?, h]
  rfl

/-- **The item list says what was handed over.** -/
theorem records_afterHandovers (hs : List Handover) :
    Items.Records hs (afterHandovers {} hs).items := by
  induction hs using List.reverseRecOn with
  | nil => exact .nil
  | append_singleton hs h ih =>
    have hconcat : afterHandovers {} (hs ++ [h]) = h.apply (afterHandovers {} hs) := by
      rw [afterHandovers, List.foldl_append]
      rfl
    rw [hconcat]
    cases h with
    | gain name => exact ih.add name
    | give name =>
      rw [Handover.apply]
      cases hremove : Items.remove? name (afterHandovers {} hs).items with
      | none =>
        rw [takeItem_of_none hremove]
        exact ih.keep hremove
      | some rest =>
        rw [takeItem_of_some hremove]
        exact ih.remove hremove

/-- What was gained can be given away, and then the player is as before. -/
theorem takeItem_addItem {p : Player} (hpos : ∀ item ∈ p.items, 1 ≤ item.count) (name : String) :
    (p.addItem name).takeItem name = p :=
  takeItem_of_some (Items.remove?_add hpos name)

/-- What was given away can be gained back. The name may stand at another place after that, but
every count is as before. -/
theorem count_addItem_takeItem {p : Player} {name : String}
    (hnodup : (p.items.map Item.name).Nodup) (hheld : 0 < Items.count p.items name)
    (hgiven : (p.takeItem? name).isSome = true) (other : String) :
    Items.count ((p.takeItem name).addItem name).items other = Items.count p.items other := by
  rw [takeItem?, Option.isSome_map] at hgiven
  obtain ⟨rest, hrest⟩ := Option.isSome_iff_exists.1 hgiven
  rw [takeItem_of_some hrest]
  show Items.count (Items.add name rest) other = _
  rw [Items.count_add, Items.count_of_remove? hnodup hrest]
  split
  · next heq =>
    rw [heq]
    exact Nat.sub_add_cancel hheld
  · rfl

/-- **A player reflects some handovers**: all that can be told of them from the item list is as it
should be. -/
structure Reflects (hs : List Handover) (p : Player) : Prop where
  /-- No name is listed twice. -/
  nodup : (p.items.map Item.name).Nodup
  /-- No name is listed without items. -/
  one_le_count : ∀ item ∈ p.items, 1 ≤ item.count
  /-- The count of a name is the number of its items. -/
  count_eq : ∀ name, Items.count p.items name = held hs name
  /-- So is the count that is announced. -/
  count_inventory : ∀ name, Items.count p.inventory.items name = held hs name
  /-- A name is held if it has items. -/
  hasItem_iff : ∀ name, p.hasItem name = true ↔ 0 < held hs name
  /-- Exactly then an item of it can be given away. -/
  isSome_takeItem?_iff : ∀ name, (p.takeItem? name).isSome = true ↔ 0 < held hs name
  /-- Otherwise nothing changes. -/
  takeItem_eq_self : ∀ name, held hs name = 0 → p.takeItem name = p
  /-- What is listed was acquired. -/
  acquired : ∀ item ∈ p.items, ∃ i, LastAcquiredAt hs item.name i
  /-- The names stand in the order in which they were last acquired. -/
  ordered : (p.items.map Item.name).Pairwise (AcquiredBefore hs)
  /-- To gain an item and give it away leaves everything as it was, the order included. -/
  takeItem_addItem : ∀ name, (p.addItem name).takeItem name = p
  /-- To give an item away and gain it back leaves every count. -/
  count_addItem_takeItem : ∀ name, (p.takeItem? name).isSome = true → ∀ other,
    Items.count ((p.takeItem name).addItem name).items other = Items.count p.items other

theorem isSome_takeItem?_iff_of_records {hs : List Handover} {p : Player}
    (hr : Items.Records hs p.items) (name : String) :
    (p.takeItem? name).isSome = true ↔ 0 < held hs name := by
  rw [isSome_takeItem?]
  exact Items.hasName_iff.trans hr.mem_iff

/-- Whatever can be told is told by the counts and by the order of the names. -/
theorem Reflects.of_records {hs : List Handover} {p : Player} (hr : Items.Records hs p.items) :
    p.Reflects hs where
  nodup := hr.nodup
  one_le_count := hr.one_le_count
  count_eq := hr.count_eq
  count_inventory := hr.count_eq
  hasItem_iff name := Items.hasName_iff.trans hr.mem_iff
  isSome_takeItem?_iff := isSome_takeItem?_iff_of_records hr
  takeItem_eq_self name hzero := by
    have hnot : name ∉ p.items.map Item.name := fun hmem => Nat.ne_of_gt (hr.mem_iff.1 hmem) hzero
    exact takeItem_of_none (Items.remove?_eq_none_iff.2 hnot)
  acquired item hitem := exists_lastAcquiredAt (hr.mem_iff.1 (List.mem_map_of_mem hitem))
  ordered := hr.ordered
  takeItem_addItem := Player.takeItem_addItem hr.one_le_count
  count_addItem_takeItem name hgiven := by
    have hheld : 0 < Items.count p.items name := by
      rw [hr.count_eq]
      exact (isSome_takeItem?_iff_of_records hr name).1 hgiven
    exact Player.count_addItem_takeItem hr.nodup hheld hgiven

/-- **All that can be told from the item list** after any handovers from nothing is true of these
handovers. -/
theorem items_refine_handovers (hs : List Handover) : (afterHandovers {} hs).Reflects hs :=
  .of_records (records_afterHandovers hs)

/-- A name that was given away altogether and comes back stands at the end. -/
example : (afterHandovers {} [.gain "rope", .gain "oar", .give "rope", .gain "rope"]).items =
    [⟨"oar", 1⟩, ⟨"rope", 1⟩] := by
  decide

end Player

end Skein
