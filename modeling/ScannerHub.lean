import ScannerHub.Activation.Workbench
import ScannerHub.Daemon.Session
import ScannerHub.Hotplug
import ScannerHub.Main
import ScannerHub.Proofs.Daemon.Watchers
import ScannerHub.Proofs.Daemon.Writers
import ScannerHub.Proofs.Device.Trail
import ScannerHub.Proofs.Manager.Changes
import ScannerHub.Proofs.Manager.Course
import ScannerHub.Proofs.Manager.Fares
import ScannerHub.Proofs.Manager.Rest
import ScannerHub.Proofs.Manager.Sleep
import ScannerHub.Proofs.Manager.Autoconnect
import ScannerHub.Proofs.Manager.Firmware
import ScannerHub.Proofs.Manager.Observer
import ScannerHub.Proofs.Manager.Termination
import ScannerHub.Proofs.Manager.Replacement
import ScannerHub.Proofs.Manager.Outliving
import ScannerHub.Proofs.Bus.Mirror
import ScannerHub.Proofs.Bus.Firmware
import ScannerHub.Proofs.Manager.Inhibition
import ScannerHub.Proofs.Manager.Retries
import ScannerHub.Proofs.Manager.Verdicts
import ScannerHub.Proofs.Manager.Isolation
import ScannerHub.Proofs.Manager.Survival
import ScannerHub.Proofs.Daemon.Strangers
import ScannerHub.Proofs.Settings.Verified
import ScannerHub.Proofs.Device.Readiness
import ScannerHub.Proofs.Device.Attunement
import ScannerHub.Proofs.Manager.Choice
import ScannerHub.Proofs.Settings.Merging
import ScannerHub.Proofs.Activation.Sharing
import ScannerHub.Proofs.Manager.Replay
import ScannerHub.Proofs.Manager.Visit
import ScannerHub.Proofs.Address
import ScannerHub.Proofs.Bus.Paths
import ScannerHub.Proofs.Logging
