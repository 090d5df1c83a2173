import CaptureSieve.Instant.Binary64
import CaptureSieve.Main
import CaptureSieve.Packet.View
import CaptureSieve.Proofs.Capture.Outlook
import CaptureSieve.Proofs.Capture.Batches
import CaptureSieve.Proofs.Capture.Interleaving
import CaptureSieve.Proofs.Capture.RoundTrip
import CaptureSieve.Proofs.Capture.Times
import CaptureSieve.Proofs.Capture.Ticks
import CaptureSieve.Proofs.Capture.TickOrder
import CaptureSieve.Proofs.Writing.Stamps
import CaptureSieve.Proofs.Packet.Surplus
import CaptureSieve.Proofs.Packet.Datagram
import CaptureSieve.Proofs.Packet.Likeness
import CaptureSieve.Proofs.Packet.Enclosure
import CaptureSieve.Proofs.Sieve.Output
import CaptureSieve.Proofs.Packet.Framing
import CaptureSieve.Proofs.Sieve.Totals
import CaptureSieve.Proofs.Sieve.Alone
import CaptureSieve.Proofs.Sieve.Reframing
import CaptureSieve.Proofs.Sieve.Rewriting
import CaptureSieve.Proofs.Sieve.TimeOrder
import CaptureSieve.Proofs.Capture.Cuts
import CaptureSieve.Proofs.Capture.Resumption
import CaptureSieve.Proofs.Sieve.Failures
import CaptureSieve.Proofs.Sieve.Limits
import CaptureSieve.Proofs.Sieve.Tails
import CaptureSieve.Proofs.Capture.Cursor
import CaptureSieve.Proofs.Sieve.Accounts
import CaptureSieve.Proofs.Sieve.Encodings
import CaptureSieve.Proofs.Capture.Sections
import CaptureSieve.Proofs.Sieve.Leniency
import CaptureSieve.Proofs.Filter.Printing
import CaptureSieve.Proofs.Packet.Damage
import CaptureSieve.Proofs.Packet.Bounds
import CaptureSieve.Proofs.Capture.Stocking
import CaptureSieve.Proofs.Sieve.DnsSide
import CaptureSieve.Proofs.Filter.Algebra
import CaptureSieve.Proofs.Writing.Rejections
import CaptureSieve.Proofs.Packet.Questions
import CaptureSieve.Proofs.Packet.WordSums
import CaptureSieve.Packet.StoredKey
import CaptureSieve.Proofs.Packet.Directions
