import DeviceSpec.Artifact
import DeviceSpec.Check.Finding
import DeviceSpec.Check.Module
import DeviceSpec.Check.Rule
import DeviceSpec.Check.Source
import DeviceSpec.Command
import DeviceSpec.CommandLine
import DeviceSpec.Disk.Access
import DeviceSpec.Disk.Basic
import DeviceSpec.Document
import DeviceSpec.Generate
import DeviceSpec.Install
import DeviceSpec.Json.Codec
import DeviceSpec.Json.Error
import DeviceSpec.Json.Number
import DeviceSpec.Json.Scan
import DeviceSpec.Ledger
import DeviceSpec.Main
import DeviceSpec.Overlay
import DeviceSpec.Path
import DeviceSpec.Profile
import DeviceSpec.Proofs.Path.Steps
import DeviceSpec.Reach
import DeviceSpec.Render.Board
import DeviceSpec.Render.Device
import DeviceSpec.Render.Makefile
import DeviceSpec.Render.Manifest
import DeviceSpec.Render.Policy
import DeviceSpec.Render.Ramdisk
import DeviceSpec.Settings.Basic
import DeviceSpec.Settings.EnvFile
import DeviceSpec.Spec.Basic
import DeviceSpec.Spec.Board
import DeviceSpec.Spec.BootImage
import DeviceSpec.Spec.Hal
import DeviceSpec.Spec.InitScript
import DeviceSpec.Text.Alphanumeric
import DeviceSpec.Text.Blank
import DeviceSpec.Text.CodeRange
import DeviceSpec.Text.Lines
import DeviceSpec.Text.Quoted
import DeviceSpec.Text.Unprintable
import DeviceSpec.Text.UpperCase
import DeviceSpec.Proofs.Disk.Follow
import DeviceSpec.Proofs.Disk.Descend
import DeviceSpec.Proofs.Disk.Change
import DeviceSpec.Proofs.Json.ReadBack
import DeviceSpec.Proofs.Ledger.Keep
import DeviceSpec.Proofs.Generate.Written
import DeviceSpec.Proofs.Generate.Course
import DeviceSpec.Proofs.Generate.LastWriter
import DeviceSpec.Proofs.Ledger.Removal
import DeviceSpec.Proofs.Ledger.Rebase
import DeviceSpec.Proofs.Generate.Inside
import DeviceSpec.Proofs.Command.Record
import DeviceSpec.Proofs.Command.Prepare
import DeviceSpec.Proofs.Command.History
import DeviceSpec.Proofs.Command.Moved
import DeviceSpec.Proofs.Command.Relocate
import DeviceSpec.Proofs.Command.Inputs
import DeviceSpec.Proofs.Command.Undo
import DeviceSpec.Proofs.Disk.Listing
import DeviceSpec.Proofs.Json.Restore
import DeviceSpec.Proofs.Spec.RoundTrip
import DeviceSpec.Proofs.Check.Partitions
import DeviceSpec.Proofs.Check.Verdict
import DeviceSpec.Proofs.Overlay.Order
import DeviceSpec.Proofs.Overlay.Upsert
import DeviceSpec.Proofs.Overlay.Merge
import DeviceSpec.Proofs.Text.Lines
import DeviceSpec.Proofs.Render.Reading
import DeviceSpec.Proofs.Command.Failure
import DeviceSpec.Proofs.Render.Device
import DeviceSpec.Proofs.Render.Sources
import DeviceSpec.Proofs.Generate.Sources
import DeviceSpec.Proofs.Check.Sources
import DeviceSpec.Proofs.Render.Order
import DeviceSpec.Proofs.Disk.Overwrite
import DeviceSpec.Proofs.Command.Again
import DeviceSpec.Proofs.Check.Keep
import DeviceSpec.Proofs.Check.Monotone
import DeviceSpec.Proofs.Command.Update
import DeviceSpec.Proofs.Command.Restore
import DeviceSpec.Proofs.Command.Scaffold
import DeviceSpec.Proofs.Command.Refusal
import DeviceSpec.Proofs.Settings.EnvFile
import DeviceSpec.Proofs.Settings.Layers
import DeviceSpec.Proofs.Disk.Within
import DeviceSpec.Proofs.Disk.Delete
import DeviceSpec.Proofs.Disk.Missing
import DeviceSpec.Proofs.Disk.Working
import DeviceSpec.Proofs.Ledger.Home
import DeviceSpec.Proofs.Ledger.Clean
import DeviceSpec.Proofs.Ledger.Account
import DeviceSpec.Proofs.Ledger.Resume
import DeviceSpec.Proofs.Command.Anywhere
import DeviceSpec.Proofs.Command.Gone
import DeviceSpec.Proofs.Text.Words
import DeviceSpec.Proofs.Render.Ramdisk
import DeviceSpec.Proofs.Render.Manifest
import DeviceSpec.Proofs.Json.Tree
import DeviceSpec.Proofs.Json.Strings
import DeviceSpec.Proofs.Json.Pass
import DeviceSpec.Proofs.Json.Format
import DeviceSpec.Proofs.Json.Table
import DeviceSpec.Proofs.Json.Changed
import DeviceSpec.Proofs.Json.Compact
import DeviceSpec.Proofs.Spec.Format
import DeviceSpec.Proofs.Spec.Respelling
import DeviceSpec.Proofs.Spec.Missing
import DeviceSpec.Proofs.Render.InitScript
import DeviceSpec.Proofs.Render.Policy
import DeviceSpec.Proofs.Generate.Scripts
import DeviceSpec.Proofs.Check.Scripts
import DeviceSpec.Proofs.Check.Report
import DeviceSpec.Proofs.Disk.Subtree
import DeviceSpec.Proofs.Text.Blank
import DeviceSpec.Proofs.Check.Declaration
import DeviceSpec.Proofs.Spec.Retarget
import DeviceSpec.Proofs.Check.Locality
import DeviceSpec.Proofs.Check.BuildFiles
import DeviceSpec.Proofs.Install.Join
import DeviceSpec.Proofs.Render.Lists
import DeviceSpec.Proofs.Render.Assigned
import DeviceSpec.Proofs.Render.Board
import DeviceSpec.Proofs.Install.Boot
