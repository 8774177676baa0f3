import GameClient.Main
import GameClient.Proofs.Operations
import GameClient.Transport.Memory
import GameClient.Proofs.Trail
import GameClient.Proofs.Grammar
import GameClient.Proofs.Numbering
import GameClient.Proofs.Renewal
import GameClient.Proofs.Links
import GameClient.Proofs.Online
import GameClient.Proofs.Isolation
import GameClient.Proofs.FixedFrames
import GameClient.Proofs.Broadcast
import GameClient.Proofs.Identity
import GameClient.Proofs.Decoders
import GameClient.Proofs.Unambiguous
import GameClient.Proofs.Bounds
import GameClient.Proofs.Extension
import GameClient.Proofs.Accounts
import GameClient.Proofs.Runs
import GameClient.Proofs.Budget
import GameClient.Proofs.Repertoire
import GameClient.Proofs.Moments
import GameClient.Proofs.Attempts
import GameClient.Proofs.News
import GameClient.Proofs.Stopping
import GameClient.Proofs.Timing
import GameClient.Proofs.Outage
import GameClient.Proofs.Schedule
import GameClient.Proofs.Rendering
import GameClient.Proofs.Delivery
import GameClient.Proofs.Agreement
import GameClient.Proofs.Resting
import GameClient.Proofs.LinkLife
import GameClient.Proofs.Traffic
import GameClient.Proofs.Flushing
import GameClient.Proofs.Reporting
import GameClient.Proofs.Silence
import GameClient.Proofs.Vacancy
import GameClient.Proofs.Rounding
import GameClient.Proofs.Doubles
import GameClient.Proofs.Scaling
import GameClient.Proofs.Requests
import GameClient.Proofs.Factors
import GameClient.Proofs.Overflow
import GameClient.Proofs.Course
import GameClient.Proofs.Ticking
import GameClient.Proofs.Closing
import GameClient.Proofs.Replacement
import GameClient.Proofs.Parting
import GameClient.Proofs.Oblivious
import GameClient.Proofs.Offset
import GameClient.Proofs.Rates
import GameClient.Proofs.Squares
import GameClient.Proofs.History
import GameClient.Proofs.Ledger
import GameClient.Proofs.Persistence
import GameClient.Proofs.Layers
import GameClient.Proofs.Identifiers
