import Skein.Text.Blank
import Skein.Text.Integer
import Skein.Text.Split

/-!
# Commands of the preview

A line that is typed into the preview is one command: a word, and after the first space what the
command is about. Capital letters do not matter in the word.

## Main definitions

* `Command` — a command
* `Command.read` — the command that a line states
-/

namespace Skein

/-- A command of the preview. -/
inductive Command where
  /-- End the preview. -/
  | quit
  /-- List the commands. -/
  | help
  /-- Show the passage and its options. -/
  | look
  /-- Select the next option. -/
  | next
  /-- Select the previous option. -/
  | previous
  /-- Take the option with the given number, counted from one. -/
  | go (n : Nat)
  /-- Take the selected option. -/
  | confirm
  /-- Show what the player owns and knows. -/
  | inventory
  /-- Add an item. -/
  | give (name : String)
  /-- Remove an item. -/
  | take (name : String)
  /-- Add money. -/
  | money (amount : Int)
  /-- Add a fact. -/
  | learn (fact : String)
  /-- A command that is used in the wrong way; the text says how it is used. -/
  | misused (usage : String)
  /-- Anything else, as typed. -/
  | unknown (line : String)
  deriving DecidableEq

namespace Command

open Text

/-- The lower case of a character as far as it is an ASCII letter; besides the capital letters of
ASCII only the Kelvin sign has such a lower case. -/
def lowerLetter (c : Char) : Char :=
  if c = '\u212a' then 'k' else c.toLower

/-- The command that a line states, where the line has no blanks around it and is not empty. -/
def ofLine (line : List Char) : Command :=
  let (first, rest) := (cutWhere (· == ' ') line).getD (line, [])
  let subject := trim rest
  let name := String.ofList subject
  let orUnknown (command : Command) : Command :=
    if subject = [] then unknown (String.ofList line) else command
  match String.ofList (first.map lowerLetter) with
  | "quit" | "exit" | "q" => quit
  | "help" | "h" | "?" => help
  | "look" | "l" => look
  | "next" | "n" => next
  | "prev" | "p" => previous
  | "go" =>
    match readIndex? subject with
    | some (n + 1) => go (n + 1)
    | _ => misused "Usage: go <n>"
  | "ok" => confirm
  | "inv" | "i" => inventory
  | "give" => orUnknown (give name)
  | "take" => orUnknown (take name)
  | "money" =>
    match readInt? subject with
    | some amount => money amount
    | none => misused "Usage: money <n>"
  | "fact" => orUnknown (learn name)
  | _ => unknown (String.ofList line)

/-- The command that a line states; a blank line states none. -/
def read (line : String) : Option Command :=
  let text := trim line.toList
  if text = [] then none else some (ofLine text)

end Command

end Skein
