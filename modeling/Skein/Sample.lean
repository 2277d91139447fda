/-!
# A sample story

The story that comes with the program: an evening and a morning in Newburyport, with a train to
catch. It shows guarded text and links, one-time passages, exits and ways back.

## Main definitions

* `Sample.script`, `Sample.start` — the script and the title of its first passage
-/

namespace Skein

namespace Sample

/-- The lines of the sample script. -/
def lines : List String :=
  [":: StoryTitle",
   "Newburyport",
   "",
   "",
   ":: StoryData",
   "\x7b",
   "  \"ifid\": \"5E0F6E2B-8C1D-4C7A-9B43-2A7F1C0D9E11\",",
   "  \"format\": \"Harlowe\",",
   "  \"format-version\": \"3.3.8\",",
   "  \"start\": \"Newburyport\"",
   "\x7d",
   "",
   "",
   ":: Newburyport [start] \x7b\"position\":\"600,100\",\"size\":\"100,100\"\x7d",
   "[if fact day2]",
   "It's early morning. The town is still quiet.",
   "[else]",
   "The sun is getting low.",
   "[continue]",
   "",
   "> [[Go to the train station->Train Station]]",
   "> [[Talk with the Shopkeeper->Shopkeeper]]",
   "",
   "[if hasItem Arkham Daily Newspaper]",
   "> [[Read the newspaper]]",
   "[continue]",
   "",
   "[if fact day2]",
   "> [[Go to Bus Station->Bus Station]]",
   "[else]",
   "> [[Visit your room at YMCA->YMCA]]",
   "[continue]",
   "",
   "",
   ":: Train Station \x7b\"position\":\"400,300\",\"size\":\"100,100\"\x7d",
   "You arrive at the train station.",
   "",
   "[unless hasItem Train Ticket to Arkham]",
   "> [[Check tickets to Arkham]]",
   "[continue]",
   "",
   "[if hasItem Train Ticket to Arkham && fact day2]",
   "> [[Board the train to Arkham]]",
   "[continue]",
   "",
   "> [[Talk to the Agent->Agent]]",
   "> \x7bexit\x7d [[Exit->Newburyport]]",
   "",
   "",
   ":: Check tickets to Arkham",
   "setTitle: Ticket Window",
   "--",
   "A ticket to Arkham costs five dollars.",
   "",
   "[if hasMoney 5]",
   "> [[Buy a ticket->Buy Ticket]]",
   "[else]",
   "You count your coins. Not enough.",
   "[continue]",
   "",
   "> \x7bback\x7d [[Step away->Train Station]]",
   "",
   "",
   ":: Buy Ticket [once]",
   "takeMoney: 5",
   "addItem: Train Ticket to Arkham",
   "--",
   "The clerk slides a ticket under the glass.",
   "",
   "> \x7bback\x7d [[Back->Train Station]]",
   "",
   "",
   ":: Agent",
   "addFact: met_agent",
   "--",
   "The agent looks up from a ledger.",
   "\"The Arkham train leaves in the morning.\"",
   "",
   "> \x7bback\x7d [[Leave->Train Station]]",
   "",
   "",
   ":: Shopkeeper",
   "The shopkeeper sorts through a stack of papers.",
   "",
   "[if hasMoney 1 && !hasItem Arkham Daily Newspaper]",
   "> [[Buy a newspaper->Buy Newspaper]]",
   "[continue]",
   "",
   "> \x7bback\x7d [[Leave->Newburyport]]",
   "",
   "",
   ":: Buy Newspaper [once]",
   "takeMoney: 1",
   "addItem: Arkham Daily Newspaper",
   "--",
   "You hand over a coin.",
   "",
   "> \x7bback\x7d [[Back->Shopkeeper]]",
   "",
   "",
   ":: Read the newspaper",
   "setFact: read_paper",
   "--",
   "A headline about strange lights over Arkham.",
   "",
   "> \x7bback\x7d [[Fold it->Newburyport]]",
   "",
   "",
   ":: YMCA [once]",
   "addFact: day2",
   "addMoney: 10",
   "--",
   "You sleep poorly. In the morning you find ten dollars in your coat.",
   "",
   "> \x7bback\x7d [[Go outside->Newburyport]]",
   "",
   "",
   ":: Bus Station",
   "The buses are not running today.",
   "",
   "> \x7bexit\x7d [[Return to town->Newburyport]]",
   "",
   "",
   ":: Board the train to Arkham [ending]",
   "The train pulls away from Newburyport."]

/-- The sample script. -/
def script : String :=
  String.join (lines.map (· ++ "\n"))

/-- The title of the passage in which the sample story begins. -/
def start : String := "Newburyport"

end Sample

end Skein
