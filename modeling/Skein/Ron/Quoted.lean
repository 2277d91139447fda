import Skein.Ron.Layout
import Skein.Text.Digits
import Skein.Text.Split

/-!
# Quoted text in RON

A text stands between quotation marks and may spell out characters after a backslash. A raw text
begins with the letter `r` and as many hashes as follow its closing mark; nothing is spelled out in
it. A single character stands between apostrophes.

## Main definitions

* `Ron.readEscape` — the character that is spelled out after a backslash
* `Ron.readQuoted` — the content of a quoted text, raw or not
* `Ron.skipCharacter` — what follows a character between apostrophes

## Main results

* `Ron.length_lt_of_readEscape` — spelling a character out takes at least one character
* `Ron.readContent_cons` — a character that needs no spelling out stands for itself
-/

namespace Skein

namespace Ron

open Text

/-- The character whose code point is written with the given hexadecimal digits. -/
def ofCodePoint? (digits : List Char) : Option Char := do
  let n ← ofDigits? 16 digits
  if h : n.isValidChar then some (Char.ofNatAux n h) else none

/-- The character that is spelled out after a backslash, and what follows it. -/
def readEscape : List Char → Option (Char × List Char)
  | '\\' :: s => some ('\\', s)
  | '"' :: s => some ('"', s)
  | '\'' :: s => some ('\'', s)
  | 'n' :: s => some ('\n', s)
  | 'r' :: s => some ('\r', s)
  | 't' :: s => some ('\t', s)
  | '0' :: s => some ('\x00', s)
  | 'x' :: a :: b :: s => (ofCodePoint? [a, b]).map (·, s)
  | 'u' :: '\x7b' :: s =>
    match cutWhere (· == '\x7d') s with
    | none => none
    | some (digits, rest) =>
      if digits ≠ [] ∧ digits.length ≤ 6 then (ofCodePoint? digits).map (·, rest) else none
  | _ => none

/-- Spelling a character out takes at least one character. -/
theorem length_lt_of_readEscape {s rest : List Char} {c : Char}
    (h : readEscape s = some (c, rest)) : rest.length < s.length := by
  unfold readEscape at h
  split at h
  case h_8 a b r =>
    obtain ⟨d, -, heq⟩ := Option.map_eq_some_iff.1 h
    obtain ⟨-, rfl⟩ := Prod.mk.inj heq
    simp only [List.length_cons]
    omega
  case h_9 r =>
    split at h
    · simp at h
    · next digits after hcut =>
      have := length_lt_of_cutWhere hcut
      split at h
      · obtain ⟨d, -, heq⟩ := Option.map_eq_some_iff.1 h
        obtain ⟨-, rfl⟩ := Prod.mk.inj heq
        simp only [List.length_cons]
        omega
      · simp at h
  case h_10 => simp at h
  all_goals
    obtain ⟨-, rfl⟩ := Prod.mk.inj (Option.some.inj h)
    exact Nat.lt_succ_self _

/-- The content of a text whose quotation mark was just opened, and what follows the text. -/
def readContent (s : List Char) : Option (List Char × List Char) :=
  match s with
  | [] => none
  | '"' :: s => some ([], s)
  | '\\' :: s =>
    match _hescape : readEscape s with
    | none => none
    | some (c, s) => (readContent s).map fun (content, rest) => (c :: content, rest)
  | c :: s => (readContent s).map fun (content, rest) => (c :: content, rest)
termination_by s.length
decreasing_by
  · exact Nat.lt_succ_of_lt (length_lt_of_readEscape _hescape)
  · exact Nat.lt_succ_self _

/-- The closing mark ends a text. -/
@[simp] theorem readContent_quote (s : List Char) : readContent ('"' :: s) = some ([], s) := by
  rw [readContent]

/-- A spelled out character is part of a text. -/
theorem readContent_escape {s rest : List Char} {c : Char} (h : readEscape s = some (c, rest)) :
    readContent ('\\' :: s) =
      (readContent rest).map fun (content, rest) => (c :: content, rest) := by
  rw [readContent]
  split
  · simp_all
  · next c' s' h' =>
    obtain ⟨rfl, rfl⟩ := Prod.mk.inj (Option.some.inj (h.symm.trans h'))
    rfl

/-- A character that needs no spelling out stands for itself. -/
theorem readContent_cons {c : Char} (hquote : c ≠ '"') (hescape : c ≠ '\\') (s : List Char) :
    readContent (c :: s) =
      (readContent s).map fun (content, rest) => (c :: content, rest) := by
  rw [readContent]
  · simpa using hquote
  · simpa using hescape

/-- The content of a raw text up to a quotation mark with the given number of hashes behind it, and
what follows them. -/
def readRaw (hashes : Nat) : List Char → Option (List Char × List Char)
  | [] => none
  | c :: s =>
    match expect ('"' :: List.replicate hashes '#') (c :: s) with
    | some rest => some ([], rest)
    | none => (readRaw hashes s).map fun (content, rest) => (c :: content, rest)

/-- **The content of a quoted text**, raw or not, and what follows it. -/
def readQuoted : List Char → Option (List Char × List Char)
  | '"' :: s => readContent s
  | 'r' :: s => do
    let hashes := s.takeWhile (· == '#')
    readRaw hashes.length (← expect ['"'] (s.drop hashes.length))
  | _ => none

/-- What follows a character between apostrophes. The apostrophe itself has to be spelled out. -/
def skipCharacter : List Char → Option (List Char)
  | '\'' :: '\\' :: s => do
    let (_, s) ← readEscape s
    expect ['\''] s
  | '\'' :: c :: s => if c = '\'' then none else expect ['\''] s
  | _ => none

end Ron

end Skein
