import ProfilerBootstrap.Main
import ProfilerBootstrap.Logging.Host
import ProfilerBootstrap.Proofs.Logging.Ownership
import ProfilerBootstrap.Proofs.FileSystem.Walk
import ProfilerBootstrap.Proofs.FileSystem.Reach
import ProfilerBootstrap.Proofs.FileSystem.Sound
import ProfilerBootstrap.Proofs.FileSystem.Directory
import ProfilerBootstrap.Proofs.Rolling
import ProfilerBootstrap.Proofs.Rolling.Names
import ProfilerBootstrap.Proofs.Logging.FileName
import ProfilerBootstrap.Proofs.Logging.Site
import ProfilerBootstrap.Proofs.Logging.Rotation
import ProfilerBootstrap.Proofs.Logging.Window
import ProfilerBootstrap.Logging.History
import ProfilerBootstrap.Proofs.Logging.Files
import ProfilerBootstrap.Proofs.Logging.History
import ProfilerBootstrap.Proofs.Logging.Backups
import ProfilerBootstrap.Proofs.FileSystem.Frame
import ProfilerBootstrap.Proofs.Logging.Frame
import ProfilerBootstrap.Proofs.Logging.Opening
import ProfilerBootstrap.Proofs.LogDirectory
import ProfilerBootstrap.Proofs.Logging.Install
import ProfilerBootstrap.Proofs.Logging.Bootstrap
import ProfilerBootstrap.Proofs.Yaml.Grammar
import ProfilerBootstrap.Proofs.Yaml.Scan
import ProfilerBootstrap.Proofs.Yaml.Layout
import ProfilerBootstrap.Proofs.Yaml.Graph
import ProfilerBootstrap.Proofs.Manifest.Failure
import ProfilerBootstrap.Proofs.Yaml.Merge
import ProfilerBootstrap.Proofs.Yaml.Construction
import ProfilerBootstrap.Proofs.FileSystem.Growth
import ProfilerBootstrap.Proofs.FileSystem.Making
import ProfilerBootstrap.Proofs.LogDirectory.Twice
import ProfilerBootstrap.Proofs.Logging.Built
import ProfilerBootstrap.Proofs.Logging.Snapshot
import ProfilerBootstrap.Proofs.FileSystem.Reopen
import ProfilerBootstrap.Proofs.Logging.Reopen
import ProfilerBootstrap.Proofs.Logging.Outcome
import ProfilerBootstrap.Proofs.Logging.Apart
import ProfilerBootstrap.Proofs.Logging.Attached
import ProfilerBootstrap.Proofs.Logging.Written
import ProfilerBootstrap.Proofs.LogDirectory.Choice
import ProfilerBootstrap.Proofs.FileSystem.Slot
import ProfilerBootstrap.Proofs.Rolling.Run
import ProfilerBootstrap.Proofs.Logging.Outlets
import ProfilerBootstrap.Proofs.Logging.Routing
import ProfilerBootstrap.Proofs.FileSystem.Location
import ProfilerBootstrap.Proofs.Logging.Footprint
import ProfilerBootstrap.Proofs.Rolling.Refused
import ProfilerBootstrap.Proofs.Logging.Beside
import ProfilerBootstrap.Proofs.Logging.Stores
import ProfilerBootstrap.Proofs.Logging.Limit
import ProfilerBootstrap.Proofs.Manifest.Added
import ProfilerBootstrap.Proofs.Manifest.Checked
import ProfilerBootstrap.Proofs.Manifest.Kept
import ProfilerBootstrap.Proofs.Manifest.Place
import ProfilerBootstrap.Proofs.Manifest.Unknown
import ProfilerBootstrap.Proofs.Text.Case
import ProfilerBootstrap.Proofs.Variables
import ProfilerBootstrap.Process
import ProfilerBootstrap.Proofs.Process
import ProfilerBootstrap.Proofs.Yaml.Root
import ProfilerBootstrap.Proofs.Manifest.Embedded
import ProfilerBootstrap.Proofs.Manifest.Invalid
import ProfilerBootstrap.Proofs.Manifest.Accepted
import ProfilerBootstrap.Proofs.CommandLine.Integrations
import ProfilerBootstrap.Proofs.Rolling.Distinct
import ProfilerBootstrap.Proofs.Dotenv.Load
import ProfilerBootstrap.Proofs.Variables.Listing
import ProfilerBootstrap.Proofs.CommandLine.Listing
