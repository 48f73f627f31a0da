import EdgeCache.Main
import EdgeCache.Program.Build
import EdgeCache.Program.Encode
import EdgeCache.Proofs.Calls
import EdgeCache.Proofs.Collected
import EdgeCache.Proofs.Contact
import EdgeCache.Proofs.Control
import EdgeCache.Proofs.DateRange
import EdgeCache.Proofs.Declared
import EdgeCache.Proofs.Endings
import EdgeCache.Proofs.EpochSeconds
import EdgeCache.Proofs.Excerpts
import EdgeCache.Proofs.Expiry
import EdgeCache.Proofs.Goto
import EdgeCache.Proofs.Groups
import EdgeCache.Proofs.Handover
import EdgeCache.Proofs.LatestMatch
import EdgeCache.Proofs.Literals
import EdgeCache.Proofs.Loading
import EdgeCache.Proofs.Lookups
import EdgeCache.Proofs.LooseAddress
import EdgeCache.Proofs.Lottery
import EdgeCache.Proofs.Messages
import EdgeCache.Proofs.Parameters
import EdgeCache.Proofs.Passes
import EdgeCache.Proofs.Places
import EdgeCache.Proofs.Provenance
import EdgeCache.Proofs.Radix
import EdgeCache.Proofs.ReadBack
import EdgeCache.Proofs.Restart
import EdgeCache.Proofs.Returned
import EdgeCache.Proofs.Ring
import EdgeCache.Proofs.RoundTrip
import EdgeCache.Proofs.Saturation
import EdgeCache.Proofs.Scaling
import EdgeCache.Proofs.Selection
import EdgeCache.Proofs.SignedLiterals
import EdgeCache.Proofs.Templates
import EdgeCache.Proofs.Termination
import EdgeCache.Proofs.Transfer
import EdgeCache.Proofs.Wrapping
