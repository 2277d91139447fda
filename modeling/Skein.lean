import Skein.Main
import Skein.Proofs.Balance
import Skein.Proofs.BareText
import Skein.Proofs.BareTitles
import Skein.Proofs.Conjunction
import Skein.Proofs.ControlLines
import Skein.Proofs.Directives
import Skein.Proofs.Exits
import Skein.Proofs.GuardedLines
import Skein.Proofs.Headers
import Skein.Proofs.History
import Skein.Proofs.Holdings
import Skein.Proofs.LineEnds
import Skein.Proofs.Linking
import Skein.Proofs.Locality
import Skein.Proofs.Notices
import Skein.Proofs.Numbering
import Skein.Proofs.OneTime
import Skein.Proofs.Opposites
import Skein.Proofs.Precedence
import Skein.Proofs.Progress
import Skein.Proofs.Provision
import Skein.Proofs.Reachability
import Skein.Proofs.Rotation
import Skein.Proofs.RoundTrip
import Skein.Proofs.Safety
import Skein.Proofs.Selection
import Skein.Proofs.Sight
import Skein.Proofs.SpelledContent
import Skein.Proofs.SpelledLines
import Skein.Proofs.StoredDrafts
import Skein.Proofs.Visits
import Skein.Sample
import Skein.Script.Spelling
import Skein.Session
