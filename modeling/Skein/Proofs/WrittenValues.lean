import Mathlib.Data.List.Forall2
import Skein.Proofs.QuotedText
import Skein.Ron.Document
import Skein.Ron.Printer

/-!
# Values are read back

A value is printed without knowing who reads it, and it is read as what is expected of it. What the
two have to agree about is said by `Ron.Fits`: the value has the expected shape, the names of its
fields are known, and it has no more levels than are read. It is not said how it is laid out, and
nothing has to be, for the layout of a list depends on the level on which it stands, so that one
value is printed in both layouts. It is enough that blanks are all that is added (`Style.IsBlank`).

Names and truth values end where something follows them that belongs to no name, so a printed value
is not read back before every text. `Ron.Reads` says that it is, before every text that ends a name,
and a comma, a closing mark and the end of a document do so. The induction is on how the value fits:
the values in a list or a record are read back, hence its items are, hence all that is between the
brackets.

## Main definitions

* `Ron.EndsName` — what may follow a name
* `Ron.Reads` — a text that is read as a certain item, whatever follows that ends a name
* `Ron.Fits` — a value that fits a shape and has no more levels than a number

## Main results

* `Ron.readItems_intercalate`, `Ron.readItems_flatMap` — items are read back from one line and from
  lines of their own
* `Ron.Style.exists_enclose_eq_cons` — items between brackets are read back
* `Ron.reads_render` — a value that fits is read back
* `Ron.read_render` — so is a document
-/

namespace Skein

namespace Ron

/-! ### Blanks and marks -/

/-- The characters with which a written value, or the name of a field, begins. -/
def isOpening (c : Char) : Bool :=
  isNameStart c || c == '"' || c == '(' || c == '['

/-- The marks that close a list or a record. -/
def closings : List Char :=
  [']', ')']

/-- Whether a name ends before a text. -/
def EndsName (s : List Char) : Prop :=
  s.head?.any isRawNameChar = false ∧ s.head? ≠ some '"' ∧ s.head? ≠ some '#'

/-- A mark between items or behind the last of them is no layout and no part of a name. -/
theorem mark_of_mem {c : Char} (h : c = ',' ∨ c ∈ closings) (s : List Char) :
    skipLayout (c :: s) = some (c :: s) ∧ EndsName (c :: s) := by
  have hmark : c = ',' ∨ c = ']' ∨ c = ')' := h.imp_right List.mem_pair.1
  rcases hmark with rfl | rfl | rfl <;>
    exact ⟨skipLayout_cons rfl (by decide) s, rfl, by simp, by simp⟩

/-- What closes opens nothing. -/
theorem isOpening_of_mem_closings {c : Char} (h : c ∈ closings) : isOpening c = false := by
  rcases List.mem_pair.1 h with rfl | rfl
  · rfl
  · rfl

theorem skipLayout_append {blanks : List Char} (h : blanks.all isLayoutChar = true)
    (s : List Char) : skipLayout (blanks ++ s) = skipLayout s := by
  induction blanks with
  | nil => rfl
  | cons c blanks ih =>
    obtain ⟨hc, hblanks⟩ := Bool.and_eq_true_iff.1 h
    rw [List.cons_append, skipLayout_blank hc, ih hblanks]

/-- An opening character is no blank and begins no comment. -/
theorem skipLayout_opening {c : Char} (h : isOpening c = true) (s : List Char) :
    skipLayout (c :: s) = some (c :: s) := by
  refine skipLayout_cons ?_ ?_ s
  · rw [Bool.eq_false_iff]
    intro hc
    simp only [isLayoutChar, Bool.or_eq_true, beq_iff_eq] at hc
    rcases hc with ((rfl | rfl) | rfl) | rfl <;> exact absurd h (by decide)
  · rintro rfl
    exact absurd h (by decide)

/-! ### Items -/

section Items

variable {α : Type} {item : List Char → Option (α × List Char)} {text blanks : List Char} {a : α}
  {close : Char}

/-- A text begins like a value and is read as a certain item, whatever follows that ends a name. -/
structure Reads (item : List Char → Option (α × List Char)) (text : List Char) (a : α) : Prop where
  opening : text.head?.any isOpening = true
  read : ∀ rest, EndsName rest → item (text ++ rest) = some (a, rest)

theorem Reads.exists_eq_cons (h : Reads item text a) :
    ∃ c s, text = c :: s ∧ isOpening c = true := by
  cases text with
  | nil => exact absurd h.opening (by decide)
  | cons c s => exact ⟨c, s, rfl, h.opening⟩

theorem Reads.skipLayout (h : Reads item text a) (hblanks : blanks.all isLayoutChar = true)
    (rest : List Char) : skipLayout (blanks ++ (text ++ rest)) = some (text ++ rest) := by
  obtain ⟨c, s, rfl, hc⟩ := h.exists_eq_cons
  rw [skipLayout_append hblanks]
  exact skipLayout_opening hc _

theorem Reads.expect_close (h : Reads item text a) (hclose : close ∈ closings)
    (rest : List Char) : expect [close] (text ++ rest) = none := by
  obtain ⟨c, s, rfl, hc⟩ := h.exists_eq_cons
  have hne : close ≠ c := by
    rintro rfl
    rw [isOpening_of_mem_closings hclose] at hc
    cases hc
  rw [List.cons_append, expect, if_neg hne]

/-- An item with a comma behind it is followed by the other items. -/
theorem readItems_comma (h : Reads item text a) (hblanks : blanks.all isLayoutChar = true)
    (hclose : close ∈ closings) (n : Nat) (s : List Char) :
    readItems close item (n + 1) (blanks ++ (text ++ ',' :: s)) =
      (readItems close item n s).map fun (others, rest) => (a :: others, rest) := by
  obtain ⟨hcomma, hends⟩ := mark_of_mem (.inl rfl) s
  simp only [readItems, h.skipLayout hblanks, h.expect_close hclose, h.read _ hends, hcomma,
    Option.bind_eq_bind, Option.bind_some, expect, if_pos]
  cases readItems close item n s <;> rfl

/-- An item with the closing mark behind it is the last one. -/
theorem readItems_last (h : Reads item text a) (hblanks : blanks.all isLayoutChar = true)
    (hclose : close ∈ closings) (n : Nat) (rest : List Char) :
    readItems close item (n + 1) (blanks ++ (text ++ close :: rest)) = some ([a], rest) := by
  obtain ⟨hmark, hends⟩ := mark_of_mem (.inr hclose) rest
  have hne : ',' ≠ close := by
    rintro rfl
    exact absurd hclose (by decide)
  simp only [readItems, h.skipLayout hblanks, h.expect_close hclose, h.read _ hends, hmark,
    Option.bind_eq_bind, Option.bind_some, expect, if_neg hne, if_pos]
  rfl

/-- Behind the last comma there may be nothing. -/
theorem readItems_blanks (hblanks : blanks.all isLayoutChar = true) (hclose : close ∈ closings)
    (n : Nat) (rest : List Char) :
    readItems close item (n + 1) (blanks ++ close :: rest) = some ([], rest) := by
  refine readItems_close ?_ item n
  rw [skipLayout_append hblanks]
  exact (mark_of_mem (.inr hclose) rest).1

variable {texts : List (List Char)} {values : List α}

/-- Items are read back from one line. -/
theorem readItems_intercalate {separator : List Char} (h : List.Forall₂ (Reads item) texts values)
    (hseparator : separator.all isLayoutChar = true) (hclose : close ∈ closings) {n : Nat}
    (hn : texts.length < n) (rest : List Char) :
    readItems close item n ((',' :: separator).intercalate texts ++ close :: rest) =
      some (values, rest) := by
  -- Blanks stand before all items but the first, so the induction is on a text with blanks.
  have hread : ∀ blanks : List Char, blanks.all isLayoutChar = true →
      readItems close item n (blanks ++ ((',' :: separator).intercalate texts ++ close :: rest)) =
        some (values, rest) := by
    induction h generalizing n with
    | nil =>
      intro blanks hblanks
      obtain ⟨n, rfl⟩ := Nat.exists_eq_add_one_of_ne_zero (Nat.ne_of_gt hn)
      exact readItems_blanks hblanks hclose n rest
    | @cons text a texts values hfirst hothers ih =>
      intro blanks hblanks
      obtain ⟨n, rfl⟩ := Nat.exists_eq_add_one_of_ne_zero (Nat.ne_of_gt (Nat.zero_lt_of_lt hn))
      have hn : texts.length < n := Nat.lt_of_succ_lt_succ hn
      cases hothers with
      | nil =>
        rw [List.intercalate_singleton]
        exact readItems_last hfirst hblanks hclose n rest
      | @cons second b texts values hsecond hothers =>
        rw [List.intercalate_cons_cons, List.append_assoc, List.append_assoc, List.cons_append,
          readItems_comma hfirst hblanks hclose, ih hn separator hseparator]
        rfl
  exact hread [] rfl

/-- Items are read back from lines of their own. -/
theorem readItems_flatMap {indent : List Char} (h : List.Forall₂ (Reads item) texts values)
    (hindent : indent.all isLayoutChar = true) (hblanks : blanks.all isLayoutChar = true)
    (hclose : close ∈ closings) {n : Nat} (hn : texts.length < n) (rest : List Char) :
    readItems close item n
        ('\n' :: (texts.flatMap fun text => indent ++ text ++ [',', '\n']) ++ blanks ++
          close :: rest) = some (values, rest) := by
  have hline : ∀ {s : List Char}, s.all isLayoutChar = true →
      ('\n' :: s).all isLayoutChar = true := fun hs => hs
  induction h generalizing n with
  | nil =>
    obtain ⟨n, rfl⟩ := Nat.exists_eq_add_one_of_ne_zero (Nat.ne_of_gt hn)
    exact readItems_blanks (hline hblanks) hclose n rest
  | @cons text a texts values hfirst hothers ih =>
    obtain ⟨n, rfl⟩ := Nat.exists_eq_add_one_of_ne_zero (Nat.ne_of_gt (Nat.zero_lt_of_lt hn))
    have heq : '\n' :: ((text :: texts).flatMap fun text => indent ++ text ++ [',', '\n']) ++
        blanks ++ close :: rest = '\n' :: indent ++ (text ++ ',' :: ('\n' ::
          (texts.flatMap fun text => indent ++ text ++ [',', '\n']) ++ blanks ++
            close :: rest)) := by
      simp
    rw [heq, readItems_comma hfirst (hline hindent) hclose, ih (Nat.lt_of_succ_lt_succ hn)]
    rfl

end Items

/-! ### Brackets -/

namespace Style

/-- A style in which nothing but blanks stands between what is written. -/
structure IsBlank (style : Style) : Prop where
  separator : style.separator.all isLayoutChar = true
  indentation : style.indentation.all isLayoutChar = true

theorem isBlank_compact : compact.IsBlank :=
  ⟨rfl, rfl⟩

theorem isBlank_pretty : pretty.IsBlank :=
  ⟨rfl, rfl⟩

variable {style : Style}

theorem IsBlank.indent (h : style.IsBlank) (level : Nat) :
    (style.indent level).all isLayoutChar = true := by
  induction level with
  | zero => rfl
  | succ level ih =>
    have hsucc : style.indent (level + 1) = style.indentation ++ style.indent level := by
      rw [Style.indent, List.replicate_succ, List.flatten_cons, Style.indent]
    rw [hsucc, List.all_append, h.indentation, ih, Bool.and_true]

variable {α : Type} {item : List Char → Option (α × List Char)} {texts : List (List Char)}
  {values : List α}

theorem flatten_sublist_intercalate (separator : List Char) (texts : List (List Char)) :
    texts.flatten.Sublist (separator.intercalate texts) := by
  induction texts with
  | nil => exact List.Sublist.refl _
  | cons text texts ih =>
    cases texts with
    | nil => simp
    | cons second texts =>
      rw [List.intercalate_cons_cons, List.flatten_cons, List.append_assoc]
      exact (ih.trans (List.sublist_append_right separator _)).append_left text

/-- All items stand in the whole, behind its opening mark. -/
theorem cons_flatten_sublist_enclose (style : Style) (level : Nat) (left right : Char)
    (texts : List (List Char)) :
    (left :: texts.flatten).Sublist (style.enclose level left right texts) := by
  have hlines : texts.flatten.Sublist
      (texts.flatMap fun text => style.indent level ++ text ++ [',', '\n']) := by
    induction texts with
    | nil => exact List.Sublist.refl _
    | cons text texts ih =>
      have htext : text.Sublist (style.indent level ++ text ++ [',', '\n']) :=
        (List.sublist_append_right _ text).trans (List.sublist_append_left _ _)
      rw [List.flatten_cons, List.flatMap_cons]
      exact htext.append ih
  rw [enclose]
  split
  · next hnil =>
    rw [hnil]
    exact List.sublist_append_left [left] [right]
  · split
    · rw [List.append_assoc]
      exact ((hlines.trans (List.sublist_append_left _ _)).cons '\n').cons_cons left
    · exact ((flatten_sublist_intercalate _ texts).trans
        (List.sublist_append_left _ _)).cons_cons left

/-- An item is shorter than the whole. -/
theorem length_lt_of_mem_enclose {text : List Char} (style : Style) (level : Nat)
    (left right : Char) (h : text ∈ texts) :
    text.length < (style.enclose level left right texts).length := by
  have hflatten := (cons_flatten_sublist_enclose style level left right texts).length_le
  have htext := (List.sublist_flatten_of_mem h).length_le
  rw [List.length_cons] at hflatten
  omega

/-- There are fewer items than characters. -/
theorem length_lt_enclose (style : Style) (level : Nat) (left right : Char)
    (h : List.Forall₂ (Reads item) texts values) :
    texts.length < (style.enclose level left right texts).length := by
  have htexts : texts.length ≤ texts.flatten.length := by
    induction h with
    | nil => exact Nat.le_refl _
    | cons hfirst _ ih =>
      obtain ⟨c, s, rfl, -⟩ := hfirst.exists_eq_cons
      rw [List.length_cons, List.flatten_cons, List.length_append, List.length_cons]
      omega
  have hflatten := (cons_flatten_sublist_enclose style level left right texts).length_le
  rw [List.length_cons] at hflatten
  omega

/-- **Items between brackets are read back**, on lines of their own or on one line. -/
theorem exists_enclose_eq_cons (hstyle : style.IsBlank) (level : Nat) (left : Char) {right : Char}
    (hright : right ∈ closings) (h : List.Forall₂ (Reads item) texts values) {n : Nat}
    (hlimit : (style.enclose level left right texts).length < n) :
    ∃ body, style.enclose level left right texts = left :: body ∧
      ∀ rest, readItems right item n (body ++ rest) = some (values, rest) := by
  have hn : texts.length < n := (length_lt_enclose style level left right h).trans hlimit
  rw [enclose]
  split
  · next hnil =>
    subst hnil
    cases h
    have hnone : ([] : List Char).all isLayoutChar = true := rfl
    obtain ⟨n, rfl⟩ := Nat.exists_eq_add_one_of_ne_zero (Nat.ne_of_gt hn)
    exact ⟨[right], rfl, fun rest => readItems_blanks hnone hright n rest⟩
  · split
    · refine ⟨_, rfl, fun rest => ?_⟩
      rw [← readItems_flatMap h (hstyle.indent level) (hstyle.indent (level - 1)) hright hn rest]
      congr 1
      simp
    · refine ⟨_, rfl, fun rest => ?_⟩
      rw [← readItems_intercalate h hstyle.separator hright hn rest]
      congr 1
      simp

end Style

/-! ### Values -/

/-- A name that is written as it is. -/
@[mk_iff]
structure IsName (name : List Char) : Prop where
  start : name.head?.any isNameStart = true
  chars : name.all isNameChar = true

instance (name : List Char) : Decidable (IsName name) :=
  decidable_of_iff _ (isName_iff name).symm

/-- **A value fits a shape** and goes no deeper than a number of levels: it takes a level itself,
and one more if it has brackets. -/
inductive Fits : Nat → Shape → Value → Prop where
  /-- A text fits. -/
  | text {n : Nat} (content : String) : Fits (n + 1) .text (.text content)
  /-- A truth value fits. -/
  | flag {n : Nat} (holds : Bool) : Fits (n + 1) .flag (.flag holds)
  /-- A name fits that can be written as it is. -/
  | name {n : Nat} {name : String} (h : IsName name.toList) : Fits (n + 1) .name (.name name)
  /-- An optional value may be absent. -/
  | absent {n : Nat} (shape : Shape) : Fits (n + 1) (.optional shape) .absent
  /-- An optional value that is present fits as the value does. -/
  | present {n : Nat} {shape : Shape} {v : Value} (h : Fits n shape v) :
    Fits (n + 1) (.optional shape) (.present v)
  /-- The items of a list fit one by one. -/
  | list {n : Nat} {shape : Shape} {items : List Value} (h : ∀ v ∈ items, Fits n shape v) :
    Fits (n + 2) (.list shape) (.list items)
  /-- The fields of a record fit one by one and have different names, all of which are known. -/
  | record {n : Nat} {shapes : List (String × Shape)} {fields : List (String × Value)}
    (name : String) (nodup : (fields.map Prod.fst).Nodup)
    (known : ∀ field ∈ fields, IsName field.1.toList ∧ (shapes.lookup field.1).isSome = true)
    (h : ∀ field ∈ fields, ∀ shape, shapes.lookup field.1 = some shape → Fits n shape field.2) :
    Fits (n + 2) (.record name shapes) (.record fields)

/-- How a field is written. -/
def renderField (style : Style) (level : Nat) (field : String × Value) : List Char :=
  field.1.toList ++ ':' :: style.separator ++ render style level field.2

theorem renderItems_eq_map (style : Style) (level : Nat) (items : List Value) :
    renderItems style level items = items.map (render style level) := by
  induction items with
  | nil => rw [renderItems, List.map_nil]
  | cons v items ih => rw [renderItems, ih, List.map_cons]

theorem renderFields_eq_map (style : Style) (level : Nat) (fields : List (String × Value)) :
    renderFields style level fields = fields.map (renderField style level) := by
  induction fields with
  | nil => rw [renderFields, List.map_nil]
  | cons field fields ih =>
    obtain ⟨name, v⟩ := field
    rw [renderFields, ih, List.map_cons]
    rfl

/-! ### Reading what is written -/

section Reading

variable {context : Context} {style : Style} {n : Nat}

theorem isOpening_of_isNameStart {c : Char} (h : isNameStart c = true) : isOpening c = true := by
  rw [isOpening, h]
  rfl

theorem opening_append {name : List Char} (h : IsName name) (rest : List Char) :
    (name ++ rest).head?.any isOpening = true := by
  cases name with
  | nil => exact absurd h.start (by decide)
  | cons c name => exact isOpening_of_isNameStart h.start

/-- A field is read back if its value is. -/
theorem reads_renderField {β : Type} (hstyle : style.IsBlank) {level : Nat}
    {field : String × Value} (hname : IsName field.1.toList)
    {value : List Char → List Char → Option (β × List Char)} {b : β}
    (h : Reads (value field.1.toList) (render style level field.2) b) :
    Reads (readEntry readName value) (renderField style level field) b := by
  obtain ⟨name, v⟩ := field
  constructor
  · rw [renderField, List.append_assoc]
    exact opening_append hname _
  · intro rest hrest
    have hcolon : readName (name.toList ++ ':' :: (style.separator ++
        (render style level v ++ rest))) = some (name.toList, ':' :: (style.separator ++
        (render style level v ++ rest))) :=
      readName_append hname.start hname.chars rfl (by simp) (by simp)
    have hlayout : ∀ s, skipLayout (':' :: s) = some (':' :: s) :=
      skipLayout_cons rfl (by decide)
    rw [renderField, readEntry]
    simp only [List.append_assoc, List.cons_append]
    simp only [hcolon, hlayout, h.skipLayout hstyle.separator, h.read rest hrest, expect,
      Option.bind_eq_bind, Option.bind_some, if_pos]

/-- An optional value is read back from the parentheses it stands in. -/
theorem readPresent_parenthesized {α : Type} {value : List Char → Option (α × List Char)}
    {text : List Char} {a : α} (h : Reads value text a) (rest : List Char) :
    readPresent context value ('(' :: (text ++ ')' :: rest)) = some (a, rest) := by
  obtain ⟨hmark, hends⟩ := mark_of_mem (.inr (show ')' ∈ closings by decide)) rest
  have hopen : skipLayout ('(' :: (text ++ ')' :: rest)) = some ('(' :: (text ++ ')' :: rest)) :=
    skipLayout_opening rfl _
  have hnone : ([] : List Char).all isLayoutChar = true := rfl
  have hvalue : skipLayout (text ++ ')' :: rest) = some (text ++ ')' :: rest) :=
    h.skipLayout hnone _
  rw [readPresent, hopen]
  simp [expect, hvalue, h.read _ hends, hmark]

/-- A list is read back if its items are. -/
theorem reads_list (hstyle : style.IsBlank) {shape : Shape} {items : List Value} (level : Nat)
    (h : List.Forall₂ (Reads (readValue context n shape)) (renderItems style (level + 1) items)
      items) (hlimit : (render style level (.list items)).length < context.itemLimit) :
    Reads (readValue context (n + 2) (.list shape)) (render style level (.list items))
      (.list items) := by
  rw [render] at hlimit ⊢
  obtain ⟨body, hbody, hread⟩ :=
    Style.exists_enclose_eq_cons hstyle (level + 1) '[' (show ']' ∈ closings by decide) h hlimit
  rw [hbody]
  refine ⟨rfl, fun rest _ => ?_⟩
  rw [readValue, List.cons_append]
  simp only [expect, if_pos, Option.bind_eq_bind, Option.bind_some, readList, hread,
    Option.map_some]

/-- Before the fields of a record there need be nothing but a parenthesis. -/
theorem openRecord_cons (name : String) (s : List Char) : openRecord name ('(' :: s) = some s := by
  have hlayout : skipLayout ('(' :: s) = some ('(' :: s) := skipLayout_opening rfl s
  have hhead : ¬ ('(' :: s).head?.any isNameChar = true := Bool.noConfusion
  rw [openRecord, if_neg hhead, hlayout]
  rfl

/-- A record is read back if its fields are, and have different names. -/
theorem reads_record (hstyle : style.IsBlank) {shapes : List (String × Shape)}
    {fields : List (String × Value)} (name : String) (nodup : (fields.map Prod.fst).Nodup)
    (level : Nat)
    (h : List.Forall₂ (Reads (readEntry readName
        (readField shapes (readValue context n) (skipValue context n))))
      (renderFields style (level + 1) fields) (fields.map some))
    (hlimit : (render style level (.record fields)).length < context.itemLimit) :
    Reads (readValue context (n + 2) (.record name shapes)) (render style level (.record fields))
      (.record fields) := by
  rw [render] at hlimit ⊢
  obtain ⟨body, hbody, hread⟩ :=
    Style.exists_enclose_eq_cons hstyle (level + 1) '(' (show ')' ∈ closings by decide) h hlimit
  rw [hbody]
  refine ⟨rfl, fun rest _ => ?_⟩
  have hknown : (fields.map some).filterMap id = fields := by
    rw [List.filterMap_map, Function.id_comp, List.filterMap_some]
  rw [readValue, List.cons_append, openRecord_cons, Option.bind_eq_bind, Option.bind_some,
    readFields]
  simp only [hread, hknown, Option.bind_eq_bind, Option.bind_some, if_pos nodup]
  rfl

/-- **A value that fits is read back** however it is laid out. -/
theorem reads_render (hstyle : style.IsBlank) {shape : Shape} {v : Value} (h : Fits n shape v)
    (level : Nat) (hlimit : (render style level v).length < context.itemLimit) :
    Reads (readValue context n shape) (render style level v) v := by
  induction h generalizing level with
  | text content =>
    refine ⟨rfl, fun rest _ => ?_⟩
    rw [render, readValue, readQuoted_quoted]
    simp
  | flag holds =>
    refine ⟨by cases holds <;> rfl, fun rest _ => ?_⟩
    cases holds <;> simp [render, readValue, readFlag, flagWord, expect]
  | @name n name h =>
    rw [render]
    refine ⟨?_, fun rest hrest => ?_⟩
    · rw [← List.append_nil name.toList]
      exact opening_append h []
    · rw [readValue, readName_append h.start h.chars hrest.1 hrest.2.1 hrest.2.2]
      simp
  | absent shape =>
    exact ⟨rfl, fun rest _ => by simp [render, readValue, noneWord, expect]⟩
  | @present n shape v h ih =>
    rw [render] at hlimit ⊢
    have hinner : (render style level v).length < context.itemLimit := by
      simp only [List.length_append, List.length_cons] at hlimit
      omega
    refine ⟨rfl, fun rest _ => ?_⟩
    have hnone : ∀ s, expect noneWord (someWord ++ s) = none := fun _ => rfl
    have heq : someWord ++ '(' :: render style level v ++ [')'] ++ rest =
        someWord ++ '(' :: (render style level v ++ ')' :: rest) := by simp
    rw [heq, readValue, hnone, expect_append]
    dsimp only
    rw [readPresent_parenthesized (ih level hinner)]
    rfl
  | @list n shape items h ih =>
    have hreads : List.Forall₂ (Reads (readValue context n shape))
        (renderItems style (level + 1) items) items := by
      rw [renderItems_eq_map]
      refine List.forall₂_map_left_iff.2 (List.forall₂_same.2 fun v hv => ih v hv _ ?_)
      rw [render, renderItems_eq_map] at hlimit
      exact (Style.length_lt_of_mem_enclose _ _ _ _ (List.mem_map_of_mem hv)).trans hlimit
    exact reads_list hstyle level hreads hlimit
  | @record n shapes fields name nodup known h ih =>
    have hfield : ∀ field ∈ fields, Reads
        (readField shapes (readValue context n) (skipValue context n) field.1.toList)
        (render style (level + 1) field.2) (some field) := by
      intro field hmem
      obtain ⟨shape, hshape⟩ := Option.isSome_iff_exists.1 (known field hmem).2
      have hlength : (render style (level + 1) field.2).length < context.itemLimit := by
        have hwhole := Style.length_lt_of_mem_enclose style (level + 1) '(' ')'
          (List.mem_map_of_mem (f := renderField style (level + 1)) hmem)
        rw [render, renderFields_eq_map] at hlimit
        simp only [renderField, List.length_append] at hwhole
        omega
      have hvalue := ih field hmem shape hshape (level + 1) hlength
      refine ⟨hvalue.opening, fun rest hrest => ?_⟩
      simp only [readField, String.ofList_toList, hshape, hvalue.read rest hrest, Option.map_some]
    have hreads : List.Forall₂ (Reads (readEntry readName
          (readField shapes (readValue context n) (skipValue context n))))
        (renderFields style (level + 1) fields) (fields.map some) := by
      rw [renderFields_eq_map]
      refine List.forall₂_map_left_iff.2 (List.forall₂_map_right_iff.2 (List.forall₂_same.2 ?_))
      exact fun field hmem => reads_renderField hstyle (known field hmem).1 (hfield field hmem)
    exact reads_record hstyle name nodup level hreads hlimit

/-! ### Documents -/

theorem endsName_of_blank {blanks : List Char} (h : blanks.all isLayoutChar = true) :
    EndsName blanks := by
  cases blanks with
  | nil => exact ⟨rfl, by simp, by simp⟩
  | cons c blanks =>
    have hc : isLayoutChar c = true := (Bool.and_eq_true_iff.1 h).1
    simp only [isLayoutChar, Bool.or_eq_true, beq_iff_eq] at hc
    rcases hc with ((rfl | rfl) | rfl) | rfl <;> exact ⟨rfl, by simp, by simp⟩

/-- **A document is read back**, and blanks may follow it. -/
theorem read_render (hstyle : style.IsBlank) {shape : Shape} {v : Value}
    (h : Fits levelLimit shape v) {blanks : List Char} (hblanks : blanks.all isLayoutChar = true) :
    read shape (String.ofList (render style 0 v ++ blanks)) = some v := by
  let limit := (render style 0 v ++ blanks).length + 1
  have hlimit : (render style 0 v).length < limit := by
    simp only [limit, List.length_append]
    omega
  have hreads : Reads (readValue ⟨false, limit⟩ levelLimit shape) (render style 0 v) v :=
    reads_render hstyle h 0 hlimit
  have hnone : ([] : List Char).all isLayoutChar = true := rfl
  have hbegin : skipLayout (render style 0 v ++ blanks) = some (render style 0 v ++ blanks) :=
    hreads.skipLayout hnone blanks
  have hattributes : readAttributes limit limit (render style 0 v ++ blanks) =
      some ([], render style 0 v ++ blanks) := by
    obtain ⟨c, s, heq, hc⟩ := hreads.exists_eq_cons
    have hhash : c ≠ '#' := by
      rintro rfl
      exact absurd hc (by decide)
    simp [limit, heq, readAttributes, hhash]
  have hend : skipLayout blanks = some [] := by
    rw [← List.append_nil blanks, skipLayout_append hblanks, skipLayout_nil]
  have hvalue := hreads.read blanks (endsName_of_blank hblanks)
  rw [read, String.toList_ofList]
  simp only [limit] at hattributes hvalue
  simp only [hbegin, hattributes, List.contains_nil, hvalue, hend, Option.bind_eq_bind,
    Option.bind_some]
  rfl

end Reading

end Ron

end Skein
