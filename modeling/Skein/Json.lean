/-!
# JSON text

Hosts in a browser receive lists of options and inventories as JSON text: compact, with fields in a
fixed order. In a quoted text only the quotation mark, the backslash and the controls below the
space are spelled out.

## Main definitions

* `Json.quoted` — a text as JSON
* `Json.array`, `Json.object` — several values as one
-/

namespace Skein

namespace Json

/-- A number below 256 as two hexadecimal digits. -/
def twoDigits (n : Nat) : List Char :=
  Nat.toDigits 16 (n / 16) ++ Nat.toDigits 16 (n % 16)

/-- How one character is written between quotation marks. -/
def escapeChar (c : Char) : List Char :=
  match c with
  | '"' => ['\\', '"']
  | '\\' => ['\\', '\\']
  | '\x08' => ['\\', 'b']
  | '\x0c' => ['\\', 'f']
  | '\n' => ['\\', 'n']
  | '\r' => ['\\', 'r']
  | '\t' => ['\\', 't']
  | c => if c.toNat < 0x20 then ['\\', 'u', '0', '0'] ++ twoDigits c.toNat else [c]

/-- A text as JSON. -/
def quoted (s : String) : String :=
  String.ofList ('"' :: s.toList.flatMap escapeChar ++ ['"'])

/-- A truth value as JSON. -/
def boolean (b : Bool) : String :=
  if b then "true" else "false"

/-- Values that are already written, as an array. -/
def array (items : List String) : String :=
  "[" ++ ",".intercalate items ++ "]"

/-- Named values that are already written, as an object. -/
def object (fields : List (String × String)) : String :=
  "\x7b" ++ ",".intercalate (fields.map fun (name, value) => quoted name ++ ":" ++ value) ++ "\x7d"

end Json

end Skein
