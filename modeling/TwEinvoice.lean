import TwEinvoice.Cli.Readback
import TwEinvoice.Cli.ReceiveOutcome
import TwEinvoice.Client.Agreement
import TwEinvoice.Client.Announcement
import TwEinvoice.Client.PackNames
import TwEinvoice.Client.Submittable
import TwEinvoice.Concurrency.Threads
import TwEinvoice.Delivery.Recovery
import TwEinvoice.Envelope.Declarations
import TwEinvoice.Envelope.LineEnds
import TwEinvoice.Envelope.Packing
import TwEinvoice.Mig.Decimals
import TwEinvoice.Sftp.Polling
import TwEinvoice.Signing.ArmorLines
import TwEinvoice.Signing.Canonical
import TwEinvoice.Signing.SignedData
import TwEinvoice.Signing.Signer
import TwEinvoice.State.Acceptance
import TwEinvoice.State.Outcomes
import TwEinvoice.State.Store
import TwEinvoice.Transport.Basenames
import TwEinvoice.Transport.Classification
import TwEinvoice.Transport.Comparison
import TwEinvoice.Transport.ConcurrentReceivers
import TwEinvoice.Transport.Gateway
import TwEinvoice.Transport.Poller
import TwEinvoice.Transport.PollerRuns
import TwEinvoice.Transport.ReceiverDurability
import TwEinvoice.Transport.ReceiverSafety
import TwEinvoice.Transport.TemporaryNames
