import SyncFleet.Json.Printer
import SyncFleet.Json.Reader
import SyncFleet.OutputBuffer
import SyncFleet.Job.Spec
import SyncFleet.Attempt.Script
import SyncFleet.Storage.MemoryStore
import SyncFleet.Http.Router
import SyncFleet.Metrics.DiskUsage
import SyncFleet.Metrics.Exposition
import SyncFleet.Simulation.Setup
import SyncFleet.Config.Reading
import SyncFleet.Fleet.Completion
import SyncFleet.Shell.Machine
import SyncFleet.CommandLine.Outcome
import SyncFleet.Main
import SyncFleet.Proofs.Fleet.Admission
import SyncFleet.Proofs.Fleet.Spacing
import SyncFleet.Proofs.Fleet.Restart
import SyncFleet.Proofs.Fleet.Saves
import SyncFleet.Proofs.Fleet.AtOnce
import SyncFleet.Proofs.Fleet.Transparency
import SyncFleet.Proofs.Job.Busy
import SyncFleet.Proofs.Job.History
import SyncFleet.Proofs.Fleet.Exit
import SyncFleet.Proofs.Fleet.Protocol
import SyncFleet.Proofs.Checkpoint.RoundTrip
import SyncFleet.Proofs.Storage.Session
import SyncFleet.Proofs.Metrics.Throttle
import SyncFleet.Proofs.Fleet.Construction
import SyncFleet.Proofs.Fleet.Restoration
import SyncFleet.Proofs.Job.Retry
import SyncFleet.Proofs.Job.Waiting
import SyncFleet.Proofs.Http.ControlPlane
import SyncFleet.Proofs.ByteSize.Spelling
import SyncFleet.Proofs.Environment
import SyncFleet.Proofs.Config.Reading
import SyncFleet.Proofs.Attempt.Script
import SyncFleet.Proofs.Attempt.Rehearsal
import SyncFleet.Proofs.OutputBuffer
import SyncFleet.Proofs.Metrics.DiskUsage
