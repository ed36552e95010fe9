import ReliableStream.Main
import ReliableStream.Cli.Run
import ReliableStream.Proofs.Codec
import ReliableStream.Proofs.Buffer
import ReliableStream.Proofs.ByteQueue
import ReliableStream.Proofs.Sender
import ReliableStream.Proofs.Flight
import ReliableStream.Proofs.Effects
import ReliableStream.Proofs.Responses
import ReliableStream.Proofs.Moves
import ReliableStream.Proofs.Positions
import ReliableStream.Proofs.Slices
import ReliableStream.Proofs.Streams
import ReliableStream.Proofs.Session
import ReliableStream.Proofs.Integrity
import ReliableStream.Proofs.Awaiting
import ReliableStream.Proofs.Changes
import ReliableStream.Proofs.Answers
import ReliableStream.Proofs.WakeUps
import ReliableStream.Proofs.Courses
import ReliableStream.Proofs.NodeRuns
import ReliableStream.Proofs.Lineage
import ReliableStream.Proofs.Identities
import ReliableStream.Proofs.Ownership
import ReliableStream.Proofs.Pacing
import ReliableStream.Proofs.Recovery
import ReliableStream.Proofs.Handshake
import ReliableStream.Proofs.Addressing
import ReliableStream.Proofs.Turns
import ReliableStream.Proofs.Exchange
import ReliableStream.Proofs.Sites
import ReliableStream.Proofs.Records
import ReliableStream.Proofs.Separation
import ReliableStream.Proofs.LifeCycle
import ReliableStream.Proofs.Ending
import ReliableStream.Proofs.Traffic
import ReliableStream.Proofs.Timeline
import ReliableStream.Proofs.Damage
import ReliableStream.Proofs.Reserve
import ReliableStream.Proofs.Spans
import ReliableStream.Proofs.Deliveries
import ReliableStream.Proofs.Termination
import ReliableStream.Proofs.Intervals
import ReliableStream.Proofs.Conservation
import ReliableStream.Proofs.Histories
import ReliableStream.Proofs.Links
import ReliableStream.Proofs.SenderRuns
import ReliableStream.Proofs.Translation
import ReliableStream.Proofs.Acceptance
import ReliableStream.Proofs.Charts
import ReliableStream.Proofs.Resending
import ReliableStream.Proofs.Comparisons
import ReliableStream.Proofs.Releases
import ReliableStream.Proofs.Arrivals
import ReliableStream.Proofs.Backlogs
import ReliableStream.Proofs.Tallies
import ReliableStream.Proofs.Checked.Runs
import ReliableStream.Proofs.Calls
import ReliableStream.Proofs.Congestion
import ReliableStream.Proofs.Growth
import ReliableStream.Proofs.BackOff
import ReliableStream.Proofs.Segmentation
import ReliableStream.Proofs.Offsets
import ReliableStream.Proofs.Checked.Sums
