import DecimalMachine.Main
import DecimalMachine.Proofs.Decoding
import DecimalMachine.Proofs.Packing
import DecimalMachine.Proofs.Machine.Plan
import DecimalMachine.Proofs.Machine.Effect
import DecimalMachine.Proofs.Machine.Passage
import DecimalMachine.Proofs.Machine.Repetition
import DecimalMachine.Proofs.Machine.Supply
import DecimalMachine.Proofs.Machine.History
import DecimalMachine.Proofs.Machine.Invariant
import DecimalMachine.Proofs.Machine.Resumption
import DecimalMachine.Proofs.Machine.Failure
import DecimalMachine.Proofs.Machine.Semantics
import DecimalMachine.Proofs.Machine.Intake
import DecimalMachine.Proofs.Machine.Idle
import DecimalMachine.Proofs.Amplifier.Turns
import DecimalMachine.Proofs.Amplifier.Flow
import DecimalMachine.Proofs.Amplifier.Rounds
import DecimalMachine.Proofs.Amplifier.Relay
import DecimalMachine.Proofs.Amplifier.Ending
import DecimalMachine.Proofs.Machine.Extension
import DecimalMachine.Proofs.Amplifier.Allowance
import DecimalMachine.Proofs.Amplifier.Composition
import DecimalMachine.Proofs.Amplifier.Orderings
import DecimalMachine.Proofs.Amplifier.Search
import DecimalMachine.Proofs.Program.Grammar
import DecimalMachine.Proofs.Listing.Tiling
import DecimalMachine.Proofs.Listing.Reading
import DecimalMachine.Proofs.CommandLine.Listings
import DecimalMachine.Proofs.CommandLine.Running
import DecimalMachine.Proofs.Machine.Branches
import DecimalMachine.Proofs.Amplifier.Reruns
import DecimalMachine.Proofs.Log.Sessions
import DecimalMachine.Proofs.Machine.Tracing
import DecimalMachine.Proofs.Mixed.Tracing
import DecimalMachine.Proofs.CommandLine.Insertion
import DecimalMachine.Proofs.CommandLine.Tracing
import DecimalMachine.Proofs.CommandLine.Searching
import DecimalMachine.Proofs.Listing.Following
import DecimalMachine.Proofs.Machine.Progress
import DecimalMachine.Proofs.CommandLine.Noise
import DecimalMachine.Proofs.Memory.Windows
import DecimalMachine.Proofs.Listing.Splitting
import DecimalMachine.Proofs.Listing.Notation
import DecimalMachine.Proofs.Machine.Reporting
import DecimalMachine.Proofs.Outputs.Queries
import DecimalMachine.Proofs.Outputs.Views
import DecimalMachine.Proofs.Text.Paths
import DecimalMachine.Proofs.Text.Integers
import DecimalMachine.Proofs.CommandLine.Values
import DecimalMachine.Proofs.Modes
