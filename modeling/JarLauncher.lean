import JarLauncher.Files.Memory
import JarLauncher.Files.Tree
import JarLauncher.Installer
import JarLauncher.Launch
import JarLauncher.Main
import JarLauncher.Proofs.Path
import JarLauncher.Proofs.Supervision.Schedule
import JarLauncher.Rehearsal.Host
import JarLauncher.Rehearsal.Script
import JarLauncher.Rehearsal.Shell
import JarLauncher.Text.Utf8.RoundTrip
import JarLauncher.Proofs.Cache.Names
import JarLauncher.Proofs.Files.Computer
import JarLauncher.Proofs.Cache.Installation
import JarLauncher.Proofs.Cache.SingleSlot
import JarLauncher.Proofs.Machine.Protocol
import JarLauncher.Proofs.Machine.Pool
import JarLauncher.Proofs.Cache.InstallerProtocol
import JarLauncher.Proofs.Cache.SharedCache
import JarLauncher.Proofs.Cache.WholeFiles
import JarLauncher.Proofs.Cache.ConcurrentChecks
import JarLauncher.Proofs.Cache.AfterInstallation
import JarLauncher.Proofs.Launch.Gates
import JarLauncher.Proofs.JavaRuntime.Version
import JarLauncher.Text.Utf8.Lossy
import JarLauncher.Proofs.JavaRuntime.Announcement
import JarLauncher.Proofs.Supervision.Ending
import JarLauncher.Proofs.Download.AllOrNothing
import JarLauncher.Proofs.JavaRuntime.Language
import JarLauncher.Proofs.Config.RemoteLocation
import JarLauncher.Proofs.Download.Remains
import JarLauncher.Proofs.Cache.FailedInstallation
import JarLauncher.Proofs.Cache.AnyCache
import JarLauncher.Proofs.Cache.Verdict
import JarLauncher.Proofs.Cache.MarkerReplacement
import JarLauncher.Proofs.Cache.PermissionRemedy
import JarLauncher.Proofs.Config.Acceptance
import JarLauncher.Proofs.Cache.Template
import JarLauncher.Proofs.Download.StatusText
import JarLauncher.Proofs.Files.Operations
import JarLauncher.Proofs.Text.ByteOrder
import JarLauncher.Proofs.Toml.Keys
import JarLauncher.Proofs.Config.Overrides
import JarLauncher.Proofs.Config.Loading
import JarLauncher.Proofs.Supervision.WaitStatus
import JarLauncher.Proofs.Cache.DistinctFiles
