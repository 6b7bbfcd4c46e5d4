import Fingerprint.Json.Printer
import Fingerprint.Main
import Fingerprint.Session.Namespace
import Fingerprint.Proofs.Descriptor.Steps
import Fingerprint.Proofs.Hash.Blocks
import Fingerprint.Proofs.Service.Lockstep
import Fingerprint.Proofs.Service.SinglePass
import Fingerprint.Proofs.Service.DigestShape
import Fingerprint.Proofs.Descriptor.Standard
import Fingerprint.Proofs.Service.Chunking
import Fingerprint.Proofs.Session.Action
import Fingerprint.Proofs.Service.Quiet
import Fingerprint.Proofs.Session.Hashing
import Fingerprint.Proofs.Diagnosis
import Fingerprint.Proofs.Disk.Erasing
import Fingerprint.Proofs.Settings.Content
import Fingerprint.Proofs.Settings.Discovery
import Fingerprint.Proofs.Settings.Assembling
import Fingerprint.Proofs.Settings.Loading
import Fingerprint.Proofs.Settings.Skipping
import Fingerprint.Proofs.Settings.Merging
import Fingerprint.Proofs.Json.Objects
import Fingerprint.Proofs.Settings.Precedence
import Fingerprint.Proofs.Service.ReadSize
import Fingerprint.Proofs.Session.Providers
import Fingerprint.Proofs.Session.Starting
import Fingerprint.Proofs.Session.ChunkSize
import Fingerprint.Proofs.Session.Registrations
import Fingerprint.Proofs.Session.StartUp
import Fingerprint.Proofs.Session.Histories
import Fingerprint.Proofs.Session.Reporting
import Fingerprint.Proofs.Session.FailedCalls
import Fingerprint.Proofs.Session.Strictness
import Fingerprint.Proofs.Session.DataContent
import Fingerprint.Proofs.Session.Naming
import Fingerprint.Proofs.CommandLine.Opening
import Fingerprint.Proofs.CommandLine.ConfigProblems
import Fingerprint.Proofs.Settings.Alterations
import Fingerprint.Proofs.Settings.Bookkeeping
import Fingerprint.Proofs.Descriptor.Interleaving
import Fingerprint.Proofs.Session.Loadings
import Fingerprint.Proofs.Settings.Assignments
import Fingerprint.Proofs.CommandLine.Operands
import Fingerprint.Proofs.CommandLine.Digests
import Fingerprint.Proofs.Service.Answers
import Fingerprint.Proofs.Service.FileAccess
import Fingerprint.Proofs.Service.FileFaults
import Fingerprint.Proofs.Session.FileAccess
import Fingerprint.Proofs.Settings.Nearest
import Fingerprint.Proofs.Settings.Shadowing
import Fingerprint.Proofs.Disk.WorkingDirectory
import Fingerprint.Proofs.Settings.RelativeStart
import Fingerprint.Proofs.Settings.Sources
import Fingerprint.Proofs.CommandLine.FileLines
import Fingerprint.Proofs.CommandLine.Invocations
import Fingerprint.Proofs.Session.Hearing
import Fingerprint.Proofs.Session.SettingUp
import Fingerprint.Proofs.Session.Registry
import Fingerprint.Proofs.Session.Singletons
import Fingerprint.Proofs.Session.Containers
import Fingerprint.Proofs.Session.Wiring
import Fingerprint.Proofs.Catalog
import Fingerprint.Proofs.Input
import Fingerprint.Proofs.Settings.Remaking
