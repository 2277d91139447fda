import Skein.Dump
import Skein.Proofs.WrittenValues

/-!
# Stored drafts are read back

A draft is stored as a record of records, and nothing of it is lost. That a value of the right shape
is read back says only half of it. The other half is that the value of a draft stands for the draft,
and it is true of more than this one value: fields that are empty may be left out of a stored draft,
each by itself and in any of its records, and what is left still stands for the same draft.

`Ron.Abridges` says what leaving out means, and the proofs are about all that a value may be
abridged to. What is left of a value that fits a shape fits it, too, so it is read
(`Ron.Fits.abridged`). A value decodes to something if all that is left of it does (`Ron.Decodes`),
and this is shown for one kind of record after the other, from the inside out: a field that stays
decodes, and for a field that does not the default is what was left out (`Ron.LeavesOut.optional`).

## Main definitions

* `Ron.omittable`, `Ron.IsEmpty` — the fields that may be left out, and when
* `Ron.LeavesOut`, `Ron.Abridges` — a record of which some fields are left out, and a value in which
  this is done anywhere
* `Ron.Decodes` — what a value stands for even if fields are left out

## Main results

* `Ron.Fits.abridged` — what is left fits where the whole did
* `Ron.fits_draft`, `Ron.decodes_draft` — a draft fits its shape, and its value stands for it
* `Ron.readDraft_written` — every draft is read back, in both layouts, complete or abridged
-/

namespace Skein

namespace Ron

/-! ### Leaving fields out -/

/-- The fields that may be left out of a record of a draft when they are empty. None of these names
is the name of a field that has to be given. -/
def omittable : List String :=
  ["header", "tags", "segments", "macros", "links", "conditions"]

/-- The empty text and the empty list. -/
inductive IsEmpty : Value → Prop where
  /-- The empty text. -/
  | text : IsEmpty (.text "")
  /-- The empty list. -/
  | list : IsEmpty (.list [])

/-- Fields of a record some of which are left out; values that stay are related by `R`. -/
inductive LeavesOut (R : Value → Value → Prop) :
    List (String × Value) → List (String × Value) → Prop where
  /-- There is nothing to leave out of no fields. -/
  | nil : LeavesOut R [] []
  /-- A field stays. -/
  | keep (name : String) {v w : Value} {fields rest : List (String × Value)} :
    R v w → LeavesOut R fields rest → LeavesOut R ((name, v) :: fields) ((name, w) :: rest)
  /-- A field is left out that may be, and that is empty. -/
  | leave {name : String} {v : Value} {fields rest : List (String × Value)} :
    name ∈ omittable → IsEmpty v → LeavesOut R fields rest → LeavesOut R ((name, v) :: fields) rest

/-- **The second value is the first one with some of its fields left out**, in any of its records,
where they may be left out and are empty. -/
inductive Abridges : Value → Value → Prop where
  /-- Nothing is left out. -/
  | same (v : Value) : Abridges v v
  /-- Fields are left out of the items of a list. -/
  | list {items rest : List Value} :
    List.Forall₂ Abridges items rest → Abridges (.list items) (.list rest)
  /-- Fields are left out of a record, and of the values of those that stay. -/
  | record {fields rest : List (String × Value)} :
    LeavesOut Abridges fields rest → Abridges (.record fields) (.record rest)

namespace LeavesOut

variable {R : Value → Value → Prop} {fields rest : List (String × Value)}

theorem refl (hR : ∀ v, R v v) (fields : List (String × Value)) : LeavesOut R fields fields := by
  induction fields with
  | nil => exact .nil
  | cons field fields ih => exact .keep field.1 (hR field.2) ih

/-- The names that stay are some of the names. -/
theorem names_sublist (h : LeavesOut R fields rest) :
    (rest.map Prod.fst).Sublist (fields.map Prod.fst) := by
  induction h with
  | nil => exact List.Sublist.refl _
  | keep name _ _ ih => exact ih.cons_cons name
  | leave _ _ _ ih => exact ih.cons _

/-- What stays was there. -/
theorem exists_of_mem (h : LeavesOut R fields rest) {field : String × Value}
    (hmem : field ∈ rest) : ∃ v, (field.1, v) ∈ fields ∧ R v field.2 := by
  induction h with
  | nil => cases hmem
  | keep name hvw _ ih =>
    rcases List.mem_cons.1 hmem with rfl | hmem
    · exact ⟨_, List.mem_cons_self, hvw⟩
    · obtain ⟨v, hv, hR⟩ := ih hmem
      exact ⟨v, List.mem_cons_of_mem _ hv, hR⟩
  | leave _ _ _ ih =>
    obtain ⟨v, hv, hR⟩ := ih hmem
    exact ⟨v, List.mem_cons_of_mem _ hv, hR⟩

/-- A field is found if it stays; if it does not, it may be left out and is empty. -/
theorem lookup (h : LeavesOut R fields rest) (hnodup : (fields.map Prod.fst).Nodup) {name : String}
    {v : Value} (hv : fields.lookup name = some v) :
    (∃ w, rest.lookup name = some w ∧ R v w) ∨
      rest.lookup name = none ∧ name ∈ omittable ∧ IsEmpty v := by
  induction h with
  | nil => cases hv
  | @keep key u w fields rest huw _ ih =>
    rw [List.lookup_cons] at hv ⊢
    by_cases heq : name = key
    · subst heq
      rw [beq_self_eq_true] at hv ⊢
      obtain rfl := Option.some.inj hv
      exact .inl ⟨w, rfl, huw⟩
    · rw [beq_false_of_ne heq] at hv ⊢
      exact ih (List.nodup_cons.1 hnodup).2 hv
  | @leave key u fields rest hkey hu h ih =>
    rw [List.map_cons, List.nodup_cons] at hnodup
    rw [List.lookup_cons] at hv
    by_cases heq : name = key
    · subst heq
      rw [beq_self_eq_true] at hv
      obtain rfl := Option.some.inj hv
      refine .inr ⟨List.lookup_eq_none_iff.2 fun field hfield => ?_, hkey, hu⟩
      have hmem := h.names_sublist.subset (List.mem_map_of_mem hfield)
      exact bne_iff_ne.2 fun heq => hnodup.1 (heq ▸ hmem)
    · rw [beq_false_of_ne heq] at hv
      exact ih hnodup.2 hv

end LeavesOut

/-- What is left of a list. -/
theorem Abridges.exists_eq_list {items : List Value} {w : Value} (h : Abridges (.list items) w) :
    ∃ rest, w = .list rest ∧ List.Forall₂ Abridges items rest := by
  cases h with
  | same => exact ⟨items, rfl, List.forall₂_same.2 fun v _ => .same v⟩
  | list h => exact ⟨_, rfl, h⟩

/-- What is left of a record. -/
theorem Abridges.exists_eq_record {fields : List (String × Value)} {w : Value}
    (h : Abridges (.record fields) w) :
    ∃ rest, w = .record rest ∧ LeavesOut Abridges fields rest := by
  cases h with
  | same => exact ⟨fields, rfl, .refl Abridges.same fields⟩
  | record h => exact ⟨_, rfl, h⟩

/-- What holds of everything that is related to a member of a list holds of a related list. -/
theorem forall_mem_of_forall₂ {α β : Type} {R : α → β → Prop} {P : β → Prop} {l : List α}
    {r : List β} (h : List.Forall₂ R l r) (hP : ∀ a ∈ l, ∀ b, R a b → P b) : ∀ b ∈ r, P b := by
  induction h with
  | nil => exact List.forall_mem_nil P
  | cons hab _ ih =>
    obtain ⟨ha, hl⟩ := List.forall_mem_cons.1 hP
    exact List.forall_mem_cons.2 ⟨ha _ hab, ih hl⟩

/-- What is left fits where the whole did. -/
theorem Fits.abridged {n : Nat} {shape : Shape} {v w : Value} (h : Fits n shape v)
    (hw : Abridges v w) : Fits n shape w := by
  induction h generalizing w with
  | text content => cases hw; exact .text content
  | flag holds => cases hw; exact .flag holds
  | name h => cases hw; exact .name h
  | absent shape => cases hw; exact .absent shape
  | present h ih => cases hw; exact .present h
  | list h ih =>
    obtain ⟨rest, rfl, hrest⟩ := hw.exists_eq_list
    exact .list (forall_mem_of_forall₂ hrest ih)
  | record name nodup known h ih =>
    obtain ⟨rest, rfl, hrest⟩ := hw.exists_eq_record
    refine .record name (nodup.sublist hrest.names_sublist) (fun field hfield => ?_) ?_
    · obtain ⟨v, hv, -⟩ := hrest.exists_of_mem hfield
      exact known (field.1, v) hv
    · intro field hfield shape hshape
      obtain ⟨v, hv, hvw⟩ := hrest.exists_of_mem hfield
      exact ih (field.1, v) hv shape hshape hvw

/-! ### Drafts fit their shape -/

/-- Under different names every shape is found. -/
theorem lookup_eq_some_of_mem {α : Type} {l : List (String × α)} (hnodup : (l.map Prod.fst).Nodup)
    {name : String} {a : α} (h : (name, a) ∈ l) : l.lookup name = some a := by
  obtain ⟨before, after, rfl⟩ := List.append_of_mem h
  refine List.lookup_eq_some_iff.2 ⟨before, after, rfl, fun entry hentry => ?_⟩
  rw [List.map_append, List.map_cons, List.nodup_append] at hnodup
  exact bne_iff_ne.2 fun heq =>
    hnodup.2.2 entry.1 (List.mem_map_of_mem hentry) name List.mem_cons_self heq.symm

/-- A record with one field for every shape fits. -/
theorem fits_record {n : Nat} {name : String} {shapes : List (String × Shape)}
    {fields : List (String × Value)} (hnames : ∀ shape ∈ shapes, IsName shape.1.toList)
    (hnodup : (shapes.map Prod.fst).Nodup)
    (h : List.Forall₂ (fun shape field => field.1 = shape.1 ∧ Fits n shape.2 field.2)
      shapes fields) : Fits (n + 2) (.record name shapes) (.record fields) := by
  have hfields : fields.map Prod.fst = shapes.map Prod.fst := by
    clear hnames hnodup
    induction h with
    | nil => rfl
    | cons hfirst _ ih => rw [List.map_cons, List.map_cons, hfirst.1, ih]
  have hshapes : ∀ field ∈ fields, ∃ shape, (field.1, shape) ∈ shapes ∧ Fits n shape field.2 :=
    forall_mem_of_forall₂ h fun shape hshape _ ⟨hname, hfits⟩ =>
      ⟨shape.2, hname ▸ hshape, hfits⟩
  refine .record name (hfields ▸ hnodup) (fun field hfield => ?_)
    fun field hfield shape hlookup => ?_
  · obtain ⟨shape, hshape, -⟩ := hshapes field hfield
    exact ⟨hnames _ hshape, Option.isSome_iff_exists.2 ⟨shape, lookup_eq_some_of_mem hnodup hshape⟩⟩
  · obtain ⟨shape', hshape, hfits⟩ := hshapes field hfield
    rw [lookup_eq_some_of_mem hnodup hshape] at hlookup
    exact Option.some.inj hlookup ▸ hfits

theorem fits_condition (n : Nat) (c : Condition) : Fits (n + 3) conditionShape (ofCondition c) := by
  refine fits_record (by decide) (by decide) ?_
  refine .cons ⟨rfl, .flag _⟩ (.cons ⟨rfl, .name ?_⟩ (.cons ⟨rfl, .text _⟩ .nil))
  cases c.kind <;> decide

theorem fits_effect (n : Nat) (e : Effect) : Fits (n + 3) effectShape (ofEffect e) := by
  refine fits_record (by decide) (by decide) ?_
  refine .cons ⟨rfl, .name ?_⟩ (.cons ⟨rfl, .text _⟩ .nil)
  cases e.kind <;> decide

/-- A list fits if everything that it is made of does. -/
theorem fits_map {α : Type} {n : Nat} {shape : Shape} {encode : α → Value}
    (h : ∀ a, Fits n shape (encode a)) (l : List α) :
    Fits (n + 2) (.list shape) (.list (l.map encode)) :=
  .list (List.forall_mem_map.2 fun a _ => h a)

theorem fits_segment (n : Nat) (s : Segment) : Fits (n + 7) segmentShape (ofSegment s) :=
  fits_record (by decide) (by decide)
    (.cons ⟨rfl, .text _⟩ (.cons ⟨rfl, fits_map (fits_condition n) _⟩ .nil))

theorem fits_link (n : Nat) (l : Draft.Link) : Fits (n + 7) linkShape (ofLink l) :=
  fits_record (by decide) (by decide)
    (.cons ⟨rfl, .text _⟩ (.cons ⟨rfl, .text _⟩ (.cons ⟨rfl, fits_map (fits_condition n) _⟩
      (.cons ⟨rfl, fits_map .text _⟩ .nil))))

theorem fits_passage (n : Nat) (p : Draft.Passage) : Fits (n + 11) passageShape (ofPassage p) :=
  fits_record (by decide) (by decide)
    (.cons ⟨rfl, .text _⟩ (.cons ⟨rfl, .text _⟩ (.cons ⟨rfl, fits_map .text _⟩
      (.cons ⟨rfl, fits_map (fits_segment n) _⟩ (.cons ⟨rfl, fits_map (fits_effect _) _⟩
        (.cons ⟨rfl, fits_map (fits_link n) _⟩ .nil))))))

theorem fits_draft (n : Nat) (d : Draft) : Fits (n + 15) draftShape (ofDraft d) :=
  fits_record (by decide) (by decide)
    (.cons ⟨rfl, .text _⟩ (.cons ⟨rfl, fits_map (fits_passage n) _⟩ .nil))

/-! ### Decoding -/

section Decoding

variable {α : Type} {decode : Value → Option α} {v : Value} {a : α}

/-- A value stands for something, and so does all that is left of it if fields are left out. -/
def Decodes (decode : Value → Option α) (v : Value) (a : α) : Prop :=
  ∀ w, Abridges v w → decode w = some a

theorem decodes_text (content : String) : Decodes toString? (.text content) content := by
  intro w hw
  cases hw
  rfl

theorem decodes_flag (holds : Bool) : Decodes toBool? (.flag holds) holds := by
  intro w hw
  cases hw
  rfl

theorem decodes_name {ofName? : String → Option α} {name : String} (h : ofName? name = some a) :
    Decodes (toKind? ofName?) (.name name) a := by
  intro w hw
  cases hw
  exact h

theorem decodes_list {encode : α → Value} {l : List α}
    (h : ∀ a ∈ l, Decodes decode (encode a) a) :
    Decodes (toList? decode) (.list (l.map encode)) l := by
  intro w hw
  obtain ⟨rest, rfl, hrest⟩ := hw.exists_eq_list
  clear hw
  rw [List.forall₂_map_left_iff] at hrest
  rw [toList?]
  induction hrest with
  | nil => rfl
  | cons hfirst _ ih =>
    obtain ⟨ha, hl⟩ := List.forall_mem_cons.1 h
    rw [List.mapM_cons, ha _ hfirst, ih hl]
    rfl

/-- A record of which some fields may be left out is decoded field by field. -/
theorem LeavesOut.required {fields rest : List (String × Value)}
    (h : LeavesOut Abridges fields rest) (hnodup : (fields.map Prod.fst).Nodup) {name : String}
    (hname : name ∉ omittable) (hv : fields.lookup name = some v)
    (hdecodes : Decodes decode v a) :
    required rest name decode = some a := by
  rcases h.lookup hnodup hv with ⟨w, hw, hvw⟩ | ⟨-, hmem, -⟩
  · rw [Ron.required, hw]
    exact hdecodes w hvw
  · exact absurd hmem hname

theorem LeavesOut.optional {fields rest : List (String × Value)}
    (h : LeavesOut Abridges fields rest) (hnodup : (fields.map Prod.fst).Nodup) {name : String}
    (hv : fields.lookup name = some v) (hdecodes : Decodes decode v a) {default : α}
    (hempty : IsEmpty v → a = default) :
    optional rest name default decode = some a := by
  rcases h.lookup hnodup hv with ⟨w, hw, hvw⟩ | ⟨hnone, -, hv⟩
  · rw [Ron.optional, hw]
    exact hdecodes w hvw
  · rw [Ron.optional, hnone, hempty hv]

end Decoding

theorem eq_empty_of_isEmpty {content : String} (h : IsEmpty (.text content)) : content = "" := by
  cases h
  rfl

/-- A list is empty if its value is. -/
theorem eq_nil_of_isEmpty {α : Type} {encode : α → Value} {l : List α}
    (h : IsEmpty (.list (l.map encode))) : l = [] := by
  cases l with
  | nil => rfl
  | cons a l => cases h

theorem decodes_condition (c : Condition) : Decodes toCondition? (ofCondition c) c := by
  intro w hw
  obtain ⟨rest, rfl, h⟩ := hw.exists_eq_record
  have hkind := decodes_name (Condition.Kind.ofName?_name c.kind)
  rw [toCondition?, fields?, Option.bind_eq_bind, Option.bind_some,
    h.required (by simp) (by decide) rfl (decodes_flag _),
    h.required (by simp) (by decide) rfl hkind,
    h.required (by simp) (by decide) rfl (decodes_text _)]
  rfl

theorem decodes_effect (e : Effect) : Decodes toEffect? (ofEffect e) e := by
  intro w hw
  obtain ⟨rest, rfl, h⟩ := hw.exists_eq_record
  have hkind := decodes_name (Effect.Kind.ofName?_name e.kind)
  rw [toEffect?, fields?, Option.bind_eq_bind, Option.bind_some,
    h.required (by simp) (by decide) rfl hkind,
    h.required (by simp) (by decide) rfl (decodes_text _)]
  rfl

theorem decodes_segment (s : Segment) : Decodes toSegment? (ofSegment s) s := by
  intro w hw
  obtain ⟨rest, rfl, h⟩ := hw.exists_eq_record
  have hconditions := decodes_list fun c (_ : c ∈ s.conditions) => decodes_condition c
  rw [toSegment?, fields?, Option.bind_eq_bind, Option.bind_some,
    h.required (by simp) (by decide) rfl (decodes_text _),
    h.optional (by simp) rfl hconditions eq_nil_of_isEmpty]
  rfl

theorem decodes_link (l : Draft.Link) : Decodes toLink? (ofLink l) l := by
  intro w hw
  obtain ⟨rest, rfl, h⟩ := hw.exists_eq_record
  have hconditions := decodes_list fun c (_ : c ∈ l.conditions) => decodes_condition c
  have htags := decodes_list fun tag (_ : tag ∈ l.tags) => decodes_text tag
  rw [toLink?, fields?, Option.bind_eq_bind, Option.bind_some,
    h.required (by simp) (by decide) rfl (decodes_text _),
    h.required (by simp) (by decide) rfl (decodes_text _),
    h.optional (by simp) rfl hconditions eq_nil_of_isEmpty,
    h.optional (by simp) rfl htags eq_nil_of_isEmpty]
  rfl

theorem decodes_passage (p : Draft.Passage) : Decodes toPassage? (ofPassage p) p := by
  intro w hw
  obtain ⟨rest, rfl, h⟩ := hw.exists_eq_record
  have htags := decodes_list fun tag (_ : tag ∈ p.tags) => decodes_text tag
  have hsegments := decodes_list fun s (_ : s ∈ p.segments) => decodes_segment s
  have heffects := decodes_list fun e (_ : e ∈ p.effects) => decodes_effect e
  have hlinks := decodes_list fun l (_ : l ∈ p.links) => decodes_link l
  rw [toPassage?, fields?, Option.bind_eq_bind, Option.bind_some,
    h.required (by simp) (by decide) rfl (decodes_text _),
    h.optional (by simp) rfl (decodes_text _) eq_empty_of_isEmpty,
    h.optional (by simp) rfl htags eq_nil_of_isEmpty,
    h.optional (by simp) rfl hsegments eq_nil_of_isEmpty,
    h.optional (by simp) rfl heffects eq_nil_of_isEmpty,
    h.optional (by simp) rfl hlinks eq_nil_of_isEmpty]
  rfl

theorem decodes_draft (d : Draft) : Decodes toDraft? (ofDraft d) d := by
  intro w hw
  obtain ⟨rest, rfl, h⟩ := hw.exists_eq_record
  have hpassages := decodes_list fun p (_ : p ∈ d.passages) => decodes_passage p
  rw [toDraft?, fields?, Option.bind_eq_bind, Option.bind_some,
    h.required (by simp) (by decide) rfl (decodes_text _),
    h.required (by simp) (by decide) rfl hpassages]
  rfl

/-! ### Texts of a draft -/

/-- A draft is read back, whatever empty fields are left out and whatever blanks follow. -/
theorem readDraft_render {style : Style} (hstyle : style.IsBlank) {d : Draft} {v : Value}
    (h : Abridges (ofDraft d) v) {blanks : List Char} (hblanks : blanks.all isLayoutChar = true) :
    readDraft (String.ofList (render style 0 v ++ blanks)) = some d := by
  have hfits : Fits levelLimit draftShape v := (fits_draft 114 d).abridged h
  rw [readDraft, read_render hstyle hfits hblanks]
  exact decodes_draft d v h

/-- **Stored drafts are read back**: on one line and in the layout of a dump, with all fields or
with any of the empty ones left out that may be. What a dump prints is such a text. -/
theorem readDraft_written (d : Draft) :
    (∀ style ∈ [Style.compact, Style.pretty], readDraft (writeDraft style d) = some d ∧
      ∀ v, Abridges (ofDraft d) v → readDraft (String.ofList (render style 0 v)) = some d) ∧
    ∀ (files : FileAccess Id) (input : String),
      readDraft (Id.run (Dump.write files input none d)).stdout = some d := by
  have hnone : ([] : List Char).all isLayoutChar = true := rfl
  have hread : ∀ style ∈ [Style.compact, Style.pretty], ∀ v, Abridges (ofDraft d) v →
      readDraft (String.ofList (render style 0 v)) = some d := by
    intro style hstyle v hv
    have hblank : style.IsBlank := by
      rcases List.mem_pair.1 hstyle with rfl | rfl
      · exact Style.isBlank_compact
      · exact Style.isBlank_pretty
    rw [← List.append_nil (render style 0 v)]
    exact readDraft_render hblank hv hnone
  refine ⟨fun style hstyle => ⟨hread style hstyle _ (.same _), hread style hstyle⟩,
    fun files input => ?_⟩
  have hprinted : (Id.run (Dump.write files input none d)).stdout =
      String.ofList (render Style.pretty 0 (ofDraft d) ++ ['\n']) := by
    rw [String.ofList_append]
    rfl
  rw [hprinted]
  exact readDraft_render Style.isBlank_pretty (.same _) rfl

/-- A page on which little is said plainly. -/
def stormyPage : Draft.Passage where
  title := "Cafe\u0301\x00"
  segments := [⟨"It\'s late.\r\n\tRain.\n", []⟩, ⟨"\"Wind.\"\n", [⟨false, .hasItem, "\u202e"⟩]⟩]

/-- A logbook with a page like that, and with a page that has not even a title. -/
def logbook : Draft where
  title := "Log \\ book\u200b"
  passages := [stormyPage, { title := "" }]

/-- The page as a value, with nothing in it that can be left out. -/
def shortStormyPage : Value :=
  .record [
    ("title", .text "Cafe\u0301\x00"),
    ("segments", .list [
      .record [("text", .text "It\'s late.\r\n\tRain.\n")],
      ofSegment ⟨"\"Wind.\"\n", [⟨false, .hasItem, "\u202e"⟩]⟩])]

/-- The logbook as a value, with nothing in it that can be left out. -/
def shortLogbook : Value :=
  .record [
    ("title", .text "Log \\ book\u200b"),
    ("passages", .list [shortStormyPage, .record [("title", .text "")]])]

theorem abridges_shortStormyPage : Abridges (ofPassage stormyPage) shortStormyPage := by
  have hsegment : Abridges (ofSegment ⟨"It\'s late.\r\n\tRain.\n", []⟩)
      (.record [("text", .text "It\'s late.\r\n\tRain.\n")]) :=
    .record (.keep "text" (.same _) (.leave (by decide) .list .nil))
  exact .record (.keep "title" (.same _) (.leave (by decide) .text (.leave (by decide) .list
    (.keep "segments" (.list (.cons hsegment (.cons (.same _) .nil)))
      (.leave (by decide) .list (.leave (by decide) .list .nil))))))

theorem abridges_shortLogbook : Abridges (ofDraft logbook) shortLogbook := by
  have hempty : Abridges (ofPassage { title := "" }) (.record [("title", .text "")]) :=
    .record (.keep "title" (.same _) (.leave (by decide) .text (.leave (by decide) .list
      (.leave (by decide) .list (.leave (by decide) .list (.leave (by decide) .list .nil))))))
  exact .record (.keep "title" (.same _) (.keep "passages"
    (.list (.cons abridges_shortStormyPage (.cons hempty .nil))) .nil))

/-- The logbook is read back from the layout of a dump, with all that can be left out left out. -/
theorem readDraft_written_logbook :
    Style.pretty ∈ [Style.compact, Style.pretty] ∧ Abridges (ofDraft logbook) shortLogbook ∧
      readDraft (String.ofList (render Style.pretty 0 shortLogbook)) = some logbook := by
  have hpretty : Style.pretty ∈ [Style.compact, Style.pretty] := by simp
  have hread := ((readDraft_written logbook).1 Style.pretty hpretty).2
  exact ⟨hpretty, abridges_shortLogbook, hread shortLogbook abridges_shortLogbook⟩

/-- Apostrophes are spelled out, and so is what does not show. -/
example : render Style.compact 0 (.text "It\'s wet.\n\u202e") =
    "\"It\\\'s wet.\\n\\u\x7b202e\x7d\"".toList := by
  decide +kernel

end Ron

end Skein
