import Clickwork.Decimal.Layout
import Clickwork.Decimal.Scan
import Clickwork.Json.Reader
import Clickwork.Json.Writer
import Clickwork.Outbox.Delivery
import Clickwork.Program.Lemmas
import Clickwork.Proofs.Abandoned
import Clickwork.Proofs.Answered
import Clickwork.Proofs.Attached
import Clickwork.Proofs.Cleanup
import Clickwork.Proofs.Clicks
import Clickwork.Proofs.Codec
import Clickwork.Proofs.Coherent
import Clickwork.Proofs.Growth
import Clickwork.Proofs.Independent
import Clickwork.Proofs.Invisible
import Clickwork.Proofs.Isolated
import Clickwork.Proofs.Latest
import Clickwork.Proofs.Offered
import Clickwork.Proofs.OneCollection
import Clickwork.Proofs.Originals
import Clickwork.Proofs.Outbox.Delivered
import Clickwork.Proofs.Outbox.Disturbed
import Clickwork.Proofs.Precedence
import Clickwork.Proofs.Realised
import Clickwork.Proofs.Reauthored
import Clickwork.Proofs.Refused
import Clickwork.Proofs.Released
import Clickwork.Proofs.Scene.Sound
import Clickwork.Proofs.SingleFlight
import Clickwork.Proofs.Superseded
import Clickwork.Proofs.Swept
import Clickwork.Proofs.Transparent
import Clickwork.Proofs.Unblocked
import Clickwork.Proofs.Untouched
import Clickwork.Registry.Lemmas
import Clickwork.Scene.Build
import Clickwork.Session.Dispatch
import Clickwork.World
