import SfuLoad.Kit.Saturating
import SfuLoad.Kit.Averages
import SfuLoad.Kit.Barriers
import SfuLoad.Kit.BigEndian
import SfuLoad.Kit.Windows
import SfuLoad.Kit.Bitmap
import SfuLoad.Kit.Fallible
import SfuLoad.Kit.Checked
import SfuLoad.Kit.Arrivals
import SfuLoad.Kit.Others
import SfuLoad.Kit.Wrapping
import SfuLoad.Kit.Walk
import SfuLoad.Kit.Json
import SfuLoad.Kit.Lines
import SfuLoad.Kit.Spelling
import SfuLoad.Kit.DotSegments
import SfuLoad.Kit.Escaping
import SfuLoad.Kit.Suffixes
import SfuLoad.Kit.Rounding
import SfuLoad.Kit.Runs
import SfuLoad.Kit.Buffered
import SfuLoad.Kit.Counts
import SfuLoad.Kit.Updates
import SfuLoad.Kit.Numerals
import SfuLoad.Kit.Fields
import SfuLoad.Kit.Segments
import SfuLoad.Kit.Merging
import SfuLoad.Kit.Sorting
import SfuLoad.Kit.Sorter
import SfuLoad.Kit.Files
import SfuLoad.Model.Scenario
import SfuLoad.Model.Workload
import SfuLoad.Model.Result
import SfuLoad.Model.Phase
import SfuLoad.Client.Identity
import SfuLoad.Client.Media
import SfuLoad.Client.Generated
import SfuLoad.Client.Ledger
import SfuLoad.Client.Conservation
import SfuLoad.Client.Gate
import SfuLoad.Client.Rooms
import SfuLoad.Client.Assignment
import SfuLoad.Client.Agreement
import SfuLoad.Client.Sender
import SfuLoad.Client.Emission
import SfuLoad.Client.Turns
import SfuLoad.Client.Framing
import SfuLoad.Client.Stagger
import SfuLoad.Client.Offer
import SfuLoad.Client.Sequence
import SfuLoad.Client.Collect
import SfuLoad.Client.Integrity
import SfuLoad.Telemetry.Records
import SfuLoad.Telemetry.Sampler
import SfuLoad.Telemetry.Journal
import SfuLoad.Telemetry.Run
import SfuLoad.Telemetry.Marks
import SfuLoad.Telemetry.ProcessStat
import SfuLoad.Telemetry.Traffic
import SfuLoad.Phases.Frames
import SfuLoad.Phases.Peer
import SfuLoad.Phases.Traffic
import SfuLoad.Phases.System
import SfuLoad.Phases.Invariant
import SfuLoad.Phases.Safety
import SfuLoad.Report.Samples
import SfuLoad.Report.Dashboard
import SfuLoad.Report.Crossing
import SfuLoad.Report.Fanout
import SfuLoad.Report.Workers
import SfuLoad.Report.Parse
import SfuLoad.Report.Accounting
import SfuLoad.Report.Decoders
import SfuLoad.Report.Summary
import SfuLoad.Report.WholeWindow
import SfuLoad.Report.Replay
import SfuLoad.Report.Usage
import SfuLoad.Report.Pairing
import SfuLoad.Report.Partition
import SfuLoad.Report.Verdict
import SfuLoad.Report.Arithmetic
import SfuLoad.Report.Formats
import SfuLoad.Report.Render
import SfuLoad.Report.Axes
import SfuLoad.Report.Survival
import SfuLoad.Report.Separation
import SfuLoad.Report.Comparison
import SfuLoad.Report.Loading
import SfuLoad.Profile.Artifacts
import SfuLoad.Profile.Provenance
import SfuLoad.Profile.Rendering
import SfuLoad.Report.Smoothing
import SfuLoad.Report.Limits
import SfuLoad.Report.Labels
import SfuLoad.Report.Cells
import SfuLoad.Report.Links
import SfuLoad.Report.Assets
import SfuLoad.Profile.Folded
import SfuLoad.Profile.Accounts
import SfuLoad.Profile.HotStacks
import SfuLoad.Kit.Outcomes
import SfuLoad.Kit.Replacing
import SfuLoad.Kit.Effects
import SfuLoad.Kit.Table
import SfuLoad.Kit.Histories
import SfuLoad.Model.Fault
import SfuLoad.Controller.Faults
import SfuLoad.Controller.Processes
import SfuLoad.Controller.Lifecycle
import SfuLoad.Controller.Moves
import SfuLoad.Controller.Supervision
import SfuLoad.Controller.Progress
import SfuLoad.Controller.Reporting
import SfuLoad.Controller.Success
import SfuLoad.Client.Protocol
import SfuLoad.Client.Steps
import SfuLoad.Client.Commands
import SfuLoad.Client.Timers
import SfuLoad.Client.Negotiation
import SfuLoad.Client.Setup
import SfuLoad.Client.Publication
import SfuLoad.Client.LoadPeer
import SfuLoad.Client.LoadMoves
import SfuLoad.Client.Delivery
import SfuLoad.Client.Answer
import SfuLoad.Client.Rtc
import SfuLoad.Client.Streams
import SfuLoad.Client.Settled
import SfuLoad.Client.Operations
