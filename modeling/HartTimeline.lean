import HartTimeline.Main
import HartTimeline.Proofs.Recording.Audit
import HartTimeline.Proofs.Recording.Faults
import HartTimeline.Proofs.Recording.Replay
import HartTimeline.Proofs.Recording.Streams
import HartTimeline.Proofs.Run.Attribution
import HartTimeline.Proofs.Run.Conservation
import HartTimeline.Proofs.Run.Isolation
import HartTimeline.Proofs.Run.Growth
import HartTimeline.Proofs.Run.Widening
import HartTimeline.Proofs.Run.Interleaving
import HartTimeline.Proofs.Run.Representation
import HartTimeline.Proofs.Run.LineEndings
import HartTimeline.Proofs.Diff.Decoding
import HartTimeline.Proofs.Assembly
import HartTimeline.Proofs.File.Tree
import HartTimeline.Proofs.Streams
import HartTimeline.Proofs.Command.Prepare
import HartTimeline.Proofs.Command.AllOrNothing
import HartTimeline.Proofs.Command.Options
import HartTimeline.Proofs.Command.Reporting
import HartTimeline.Proofs.Snapshot
import HartTimeline.Proofs.Summary
import HartTimeline.Proofs.Verdict.Debugger
