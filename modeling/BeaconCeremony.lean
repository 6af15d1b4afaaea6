import BeaconCeremony.Chain.Verification
import BeaconCeremony.CommandLine.Simulation
import BeaconCeremony.Config.Loading
import BeaconCeremony.Main
import BeaconCeremony.Phase2.Backend
import BeaconCeremony.Pipeline.Run
import BeaconCeremony.Proofs.Chain.Verification
import BeaconCeremony.Proofs.Chain.Walk
import BeaconCeremony.Proofs.Phase2.Layout
import BeaconCeremony.Proofs.Phase2.RoundTrip
import BeaconCeremony.Proofs.Phase2.Rounds
import BeaconCeremony.Proofs.Pipeline.Once
import BeaconCeremony.Receipt
import BeaconCeremony.Registry
import BeaconCeremony.Transcript
import BeaconCeremony.Proofs.CommandLine.Command
import BeaconCeremony.Proofs.CommandLine.Shares
import BeaconCeremony.Proofs.Chain.Shares
import BeaconCeremony.Proofs.CommandLine.Whole
import BeaconCeremony.Proofs.Text.Digits
import BeaconCeremony.Proofs.Transcript
import BeaconCeremony.Proofs.Report
import BeaconCeremony.Proofs.Stream.Source
import BeaconCeremony.Proofs.CommandLine.Reporting
import BeaconCeremony.Proofs.CommandLine.Honest
import BeaconCeremony.Proofs.Pipeline.Failure
import BeaconCeremony.Proofs.Phase2.Files
import BeaconCeremony.Proofs.Pipeline.Completion
import BeaconCeremony.Proofs.Keystream.Requests
import BeaconCeremony.Proofs.Phase2.Product
import BeaconCeremony.Proofs.Pipeline.Refusal
import BeaconCeremony.Proofs.Pipeline.Logging
import BeaconCeremony.Proofs.Pipeline.Untouched
import BeaconCeremony.Proofs.Transcript.Interleaving
import BeaconCeremony.Proofs.Pipeline.Stock
import BeaconCeremony.Proofs.Pipeline.Accounting
import BeaconCeremony.Proofs.Pipeline.Hearing
import BeaconCeremony.Proofs.Phase2.Scalar
import BeaconCeremony.Proofs.Phase2.Failure
import BeaconCeremony.Proofs.Transcript.Outcome
import BeaconCeremony.Proofs.CommandLine.Reported
import BeaconCeremony.Proofs.Chain.Tampering
import BeaconCeremony.Proofs.Chain.Walks
import BeaconCeremony.Proofs.Chain.Validation
import BeaconCeremony.Proofs.Stream.Delivery
import BeaconCeremony.Proofs.Phase2.Delimited
import BeaconCeremony.Proofs.Curve.Codec
import BeaconCeremony.Proofs.Phase2.Binding
import BeaconCeremony.Proofs.Pipeline.Malformed
import BeaconCeremony.Proofs.CommandLine.Configuration
import BeaconCeremony.Proofs.CommandLine.Precedence
import BeaconCeremony.Proofs.Registry
import BeaconCeremony.Proofs.Bytes.Pieces
import BeaconCeremony.Proofs.Report.Fingerprint
import BeaconCeremony.Proofs.CommandLine.SeedWords
import BeaconCeremony.Proofs.Config.Saving
