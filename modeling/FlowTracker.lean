import FlowTracker.Engine.Interference
import FlowTracker.Replay.Run
import FlowTracker.Capture.Open
import FlowTracker.Span.Reader
import FlowTracker.Span.Writer
import FlowTracker.Export.Format
import FlowTracker.CommandLine.Parse
import FlowTracker.Main
import FlowTracker.Yaml.Parser
import FlowTracker.Proofs.Queue.Chain
import FlowTracker.Proofs.Queue.Relink
import FlowTracker.Proofs.Queue.Operations
import FlowTracker.Proofs.Queue.Lineup
import FlowTracker.Proofs.Queue.Steps
import FlowTracker.Proofs.Queue.Behaviour
import FlowTracker.Proofs.Queue.Movers
import FlowTracker.Proofs.Engine.Phases
import FlowTracker.Proofs.Engine.Records
import FlowTracker.Proofs.Engine.Times
import FlowTracker.Proofs.Engine.Programs
import FlowTracker.Proofs.Engine.Keeps
import FlowTracker.Proofs.Engine.Steady
import FlowTracker.Proofs.Engine.Process
import FlowTracker.Proofs.Engine.Sweep
import FlowTracker.Proofs.Engine.Census
import FlowTracker.Proofs.Engine.Fresh
import FlowTracker.Proofs.Engine.Consistency
import FlowTracker.Proofs.Map.Simulation
import FlowTracker.Proofs.Interleaving.Stages
import FlowTracker.Proofs.Interleaving.System
import FlowTracker.Proofs.Interleaving.Ledger
import FlowTracker.Proofs.Interleaving.Steps
import FlowTracker.Proofs.Interleaving.Alone
import FlowTracker.Proofs.Interleaving.Races
import FlowTracker.Proofs.Interleaving.Runs
import FlowTracker.Proofs.Interleaving.Finishing
import FlowTracker.Proofs.Interleaving.Drops
import FlowTracker.Proofs.Engine.Contents
import FlowTracker.Proofs.Engine.Conservation
import FlowTracker.Proofs.Capture.Format
import FlowTracker.Proofs.Capture.Reading
import FlowTracker.Proofs.Capture.Records
import FlowTracker.Proofs.Capture.Pieces
import FlowTracker.Proofs.Frames.Layers
import FlowTracker.Proofs.Frames.Truncation
import FlowTracker.Proofs.Frames.Tags
import FlowTracker.Proofs.Frames.Written
import FlowTracker.Proofs.Checked.Arithmetic
import FlowTracker.Proofs.Checked.Captures
import FlowTracker.Proofs.Checked.Frames
import FlowTracker.Proofs.Checked.Replays
import FlowTracker.Proofs.Map.Collecting
import FlowTracker.Proofs.Map.Reordering
import FlowTracker.Proofs.Replay.Requests
import FlowTracker.Proofs.Replay.Captures
import FlowTracker.Proofs.Replay.Schedules
import FlowTracker.Proofs.Export.Digits
import FlowTracker.Proofs.Export.Addresses
import FlowTracker.Proofs.Export.Objects
import FlowTracker.Proofs.Export.Lines
import FlowTracker.Proofs.Records.Conversations
import FlowTracker.Proofs.Records.Histories
import FlowTracker.Proofs.Engine.Tallies
import FlowTracker.Proofs.Engine.Exactness
import FlowTracker.Proofs.Engine.Teardown
import FlowTracker.Proofs.Capture.Rounding
import FlowTracker.Proofs.Queue.Checking
import FlowTracker.Proofs.Queue.Locality
import FlowTracker.Proofs.Queue.Leftovers
import FlowTracker.Proofs.Engine.Turns
import FlowTracker.Proofs.Queue.Transfers
import FlowTracker.Proofs.Frames.Extent
import FlowTracker.Proofs.Engine.Echoes
import FlowTracker.Proofs.Span.RoundTrip
