import Skein.Text.Unprintable

/-!
# Quoted text

Text that is meant for inspection stands between quotation marks, and what could not be read there
is spelled out: quotation marks and backslashes after a backslash, the common controls by a letter,
everything else that does not show by its code point (`\u{200b}`). Whether an apostrophe is spelled
out as well depends on where the text is written.

## Main definitions

* `Text.escapeChar` — how one character is written
* `Text.quoted` — how a text is written
-/

namespace Skein

namespace Text

/-- How one character is written between quotation marks; `apostrophe` says whether an apostrophe is
spelled out. -/
def escapeChar (apostrophe : Bool) (c : Char) : List Char :=
  match c with
  | '\x00' => ['\\', '0']
  | '\t' => ['\\', 't']
  | '\r' => ['\\', 'r']
  | '\n' => ['\\', 'n']
  | '\\' => ['\\', '\\']
  | '"' => ['\\', '"']
  | '\'' => if apostrophe then ['\\', '\''] else ['\'']
  | c =>
    if isUnprintable c then ['\\', 'u', '\x7b'] ++ Nat.toDigits 16 c.toNat ++ ['\x7d'] else [c]

/-- How a text is written: between quotation marks, character by character. -/
def quoted (apostrophe : Bool) (s : List Char) : List Char :=
  '"' :: s.flatMap (escapeChar apostrophe) ++ ['"']

end Text

end Skein
