import BuildOptions.Catalog.Basic
import BuildOptions.Catalog.Celix
import BuildOptions.CommandLine.Arguments
import BuildOptions.CommandLine.Run
import BuildOptions.CommandLine.Usage
import BuildOptions.Configuration
import BuildOptions.Failure
import BuildOptions.Files.Basic
import BuildOptions.Files.Tree
import BuildOptions.Flag
import BuildOptions.FlagValue
import BuildOptions.FlagValue.Json
import BuildOptions.Identity
import BuildOptions.Json.Printer
import BuildOptions.Json.Reader
import BuildOptions.Main
import BuildOptions.NameMap
import BuildOptions.Overrides
import BuildOptions.Platform
import BuildOptions.Profile.Basic
import BuildOptions.Profile.Search
import BuildOptions.Proofs.Catalog.Celix
import BuildOptions.Proofs.Catalog.Consistency
import BuildOptions.Proofs.Catalog.Console
import BuildOptions.Proofs.Catalog.Defects
import BuildOptions.Proofs.Flag.PositiveInteger
import BuildOptions.Proofs.FlagValue.Json
import BuildOptions.Proofs.Identity.CanonicalText
import BuildOptions.Proofs.Identity.Reproduction
import BuildOptions.Proofs.Json.Compact
import BuildOptions.Proofs.NameMap.Filling
import BuildOptions.Proofs.Overrides.Assignment
import BuildOptions.Proofs.Overrides.AssignmentText
import BuildOptions.Proofs.Overrides.Built
import BuildOptions.Proofs.Overrides.Coercion
import BuildOptions.Proofs.Overrides.Pairs
import BuildOptions.Proofs.Overrides.Typing
import BuildOptions.Proofs.Profile.Nearest
import BuildOptions.Proofs.Report.Replay
import BuildOptions.Proofs.Resolution.Addition
import BuildOptions.Proofs.Resolution.Firing
import BuildOptions.Proofs.Resolution.Noise
import BuildOptions.Proofs.Resolution.Outcome
import BuildOptions.Proofs.Resolution.Pass
import BuildOptions.Proofs.Resolution.Platform
import BuildOptions.Proofs.Resolution.Positions
import BuildOptions.Proofs.Resolution.Provenance
import BuildOptions.Proofs.Resolution.Saturation
import BuildOptions.Proofs.Resolution.Stability
import BuildOptions.Proofs.Resolution.Start
import BuildOptions.Proofs.Resolution.Steps
import BuildOptions.Proofs.Resolution.Support
import BuildOptions.Proofs.Resolution.Typing
import BuildOptions.Proofs.Rule.Closed
import BuildOptions.Proofs.Session.Merging
import BuildOptions.Proofs.Sha256.Digest
import BuildOptions.Proofs.Text.Lines
import BuildOptions.Proofs.Toolchain.Exports
import BuildOptions.Proofs.Toolchain.Linkage
import BuildOptions.Proofs.Toolchain.Packages
import BuildOptions.Proofs.Toolchain.Prerequisites
import BuildOptions.Proofs.Toolchain.ScriptReader
import BuildOptions.Proofs.Toolchain.ServiceDiscovery
import BuildOptions.Proofs.Validation.Requests
import BuildOptions.Proofs.Version.Reading
import BuildOptions.Report.Build
import BuildOptions.Report.Format
import BuildOptions.Report.Resolution
import BuildOptions.Report.Tables
import BuildOptions.Report.Verdict
import BuildOptions.Resolution
import BuildOptions.Rule
import BuildOptions.Session
import BuildOptions.Sha256
import BuildOptions.Target
import BuildOptions.Text.Blank
import BuildOptions.Text.Decimal
import BuildOptions.Text.Layout
import BuildOptions.Text.Quoted
import BuildOptions.Toml.DateTime
import BuildOptions.Toml.Document
import BuildOptions.Toml.Numeral
import BuildOptions.Toml.Text
import BuildOptions.Toml.Tree
import BuildOptions.Toml.Value
import BuildOptions.Toolchain.CacheScript
import BuildOptions.Toolchain.Package
import BuildOptions.Toolchain.Projection
import BuildOptions.Toolchain.Variables
import BuildOptions.Validation
import BuildOptions.Version
