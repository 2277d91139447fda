import Skein.Proofs.PlainText
import Skein.Ron.Quoted
import Skein.Text.Escape

/-!
# Quoted text is read back

In quotation marks, a character stands for itself or is spelled out behind a backslash, by a letter
of its own or by its code point. Which of them are spelled out is a matter of taste: the reader has
no table of characters that do not show, and what it does depends only on what it meets. So each
character is looked at by itself, whatever follows it, and nothing has to be known of the tables by
which the printer decides.

The one thing to see to is that a spelled out code point has no more digits than are read. There are
fewer than `16 ^ 6` code points, so six digits are enough, which is what the reader allows.

## Main results

* `Text.ofDigits?_toDigits` — digits are read as they are printed
* `Ron.readEscape_codePoint` — a code point is read as it is spelled out
* `Ron.readContent_escapeChar` — a character is read back, spelled out or not
* `Ron.readQuoted_quoted` — a quoted text is read back, whatever characters it holds
-/

namespace Skein

open Text

namespace Text

/-! ### Hexadecimal digits -/

theorem hexDigit?_digitChar {d : Nat} (h : d < 16) : hexDigit? (Nat.digitChar d) = some d := by
  have hall : ∀ i : Fin 16, hexDigit? (Nat.digitChar i) = some i.val := by decide
  exact hall ⟨d, h⟩

theorem digit?_digitChar {base d : Nat} (hbase : base ≤ 16) (h : d < base) :
    digit? base (Nat.digitChar d) = some d := by
  rw [digit?, hexDigit?_digitChar (h.trans_le hbase)]
  simp [h]

/-- **Digits are read as they are printed.** -/
theorem ofDigits?_toDigits {base : Nat} (hone : 1 < base) (hbase : base ≤ 16) (n : Nat) :
    ofDigits? base (Nat.toDigits base n) = some n := by
  induction n using Nat.strongRecOn with
  | ind n ih =>
    by_cases hn : n < base
    · rw [Nat.toDigits_of_lt_base hn, ← List.nil_append [_], ofDigits?_concat, ofDigits?_nil,
        digit?_digitChar hbase hn]
      simp
    · have hle : base ≤ n := Nat.le_of_not_lt hn
      have hlt : n / base < n := Nat.div_lt_self (by omega) hone
      have hmod : n % base < base := Nat.mod_lt n (by omega)
      rw [Nat.toDigits_of_base_le hone hle, ofDigits?_concat, ih _ hlt, digit?_digitChar hbase hmod]
      simp [Nat.div_add_mod]

theorem exists_hexDigit?_of_mem_toDigits {n : Nat} {c : Char} (h : c ∈ Nat.toDigits 16 n) :
    ∃ d, hexDigit? c = some d := by
  induction n using Nat.strongRecOn with
  | ind n ih =>
    by_cases hn : n < 16
    · rw [Nat.toDigits_of_lt_base hn, List.mem_singleton] at h
      exact ⟨n, h ▸ hexDigit?_digitChar hn⟩
    · have hle : 16 ≤ n := Nat.le_of_not_lt hn
      rw [Nat.toDigits_of_base_le (by decide) hle, List.mem_append, List.mem_singleton] at h
      rcases h with h | rfl
      · exact ih (n / 16) (by omega) h
      · exact ⟨n % 16, hexDigit?_digitChar (Nat.mod_lt n (by decide))⟩

end Text

namespace Ron

/-! ### Code points -/

theorem ofCodePoint?_toDigits (c : Char) : ofCodePoint? (Nat.toDigits 16 c.toNat) = some c := by
  have hvalid : c.toNat.isValidChar := c.valid
  have hchar : Char.ofNatAux c.toNat hvalid = c := by
    have hofNat : Char.ofNat c.toNat = Char.ofNatAux c.toNat hvalid := dif_pos hvalid
    rw [← hofNat, Char.ofNat_toNat]
  rw [ofCodePoint?, ofDigits?_toDigits (by decide) (by decide), Option.bind_eq_bind,
    Option.bind_some, dif_pos hvalid, hchar]

/-- A code point has at most six digits. -/
theorem length_toDigits_le (c : Char) : (Nat.toDigits 16 c.toNat).length ≤ 6 := by
  have hlt : c.toNat < 16 ^ 6 := by
    rcases c.valid with h | ⟨-, h⟩
    · exact h.trans (by decide)
    · exact h.trans (by decide)
  exact (Nat.length_toDigits_le_iff (by decide) (by decide)).2 hlt

/-- **A code point is read as it is spelled out.** -/
theorem readEscape_codePoint (c : Char) (rest : List Char) :
    readEscape ('u' :: '\x7b' :: (Nat.toDigits 16 c.toNat ++ '\x7d' :: rest)) = some (c, rest) := by
  have hdigits : ∀ d ∈ Nat.toDigits 16 c.toNat, (d == '\x7d') = false := by
    intro d hd
    obtain ⟨n, hn⟩ := exists_hexDigit?_of_mem_toDigits hd
    refine beq_eq_false_iff_ne.2 ?_
    rintro rfl
    exact absurd hn (by simp [hexDigit?])
  have hcut : cutWhere (· == '\x7d') (Nat.toDigits 16 c.toNat ++ '\x7d' :: rest) =
      some (Nat.toDigits 16 c.toNat, rest) := cutWhere_append_cons hdigits (by decide) rest
  rw [readEscape, hcut]
  dsimp only
  rw [if_pos ⟨Nat.toDigits_ne_nil, length_toDigits_le c⟩, ofCodePoint?_toDigits]
  rfl

/-! ### Texts -/

/-- A character is read back, whether it is spelled out or stands for itself. -/
theorem readContent_escapeChar (apostrophe : Bool) (c : Char) (s : List Char) :
    readContent (escapeChar apostrophe c ++ s) =
      (readContent s).map fun (content, rest) => (c :: content, rest) := by
  unfold escapeChar
  split
  case h_7 =>
    cases apostrophe with
    | true => exact readContent_escape rfl
    | false => exact readContent_cons (by decide) (by decide) s
  case h_8 _ _ _ _ _ hescape hquote _ =>
    split
    · have heq : ['\\', 'u', '\x7b'] ++ Nat.toDigits 16 c.toNat ++ ['\x7d'] ++ s =
          '\\' :: 'u' :: '\x7b' :: (Nat.toDigits 16 c.toNat ++ '\x7d' :: s) := by simp
      rw [heq]
      exact readContent_escape (readEscape_codePoint c s)
    · exact readContent_cons hquote hescape s
  all_goals exact readContent_escape rfl

/-- What is spelled out character by character is read up to the closing mark. -/
theorem readContent_flatMap_escapeChar (apostrophe : Bool) (s rest : List Char) :
    readContent (s.flatMap (escapeChar apostrophe) ++ '"' :: rest) = some (s, rest) := by
  induction s with
  | nil => exact readContent_quote rest
  | cons c s ih =>
    rw [List.flatMap_cons, List.append_assoc, readContent_escapeChar, ih]
    rfl

/-- **A quoted text is read back**, apostrophes spelled out or not. -/
theorem readQuoted_quoted (apostrophe : Bool) (s rest : List Char) :
    readQuoted (quoted apostrophe s ++ rest) = some (s, rest) := by
  have heq : quoted apostrophe s ++ rest =
      '"' :: (s.flatMap (escapeChar apostrophe) ++ '"' :: rest) := by simp [quoted]
  rw [heq, readQuoted]
  exact readContent_flatMap_escapeChar apostrophe s rest

end Ron

end Skein
