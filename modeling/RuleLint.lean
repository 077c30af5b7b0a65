import RuleLint.Main
import RuleLint.ReportReading
import RuleLint.Settings.OfJson
import RuleLint.Proofs.Lint.Clean
import RuleLint.Proofs.Lint.Policies
import RuleLint.Proofs.Source.Findings
import RuleLint.Proofs.Profile.Accounts
import RuleLint.Profile.Writing
import RuleLint.Proofs.Profile.Writing
import RuleLint.Proofs.Json.Reading
import RuleLint.Proofs.Json.Decoding
import RuleLint.Proofs.ReportReading
import RuleLint.Proofs.FileTree.Walk
import RuleLint.Proofs.Path.Order
import RuleLint.Proofs.FileTree.Reordering
import RuleLint.Proofs.FileTree.Listing
import RuleLint.Proofs.Lint.Stopping
import RuleLint.Proofs.FileTree.Components
import RuleLint.Proofs.Lint.Anchoring
import RuleLint.Proofs.Text.SingleLine
import RuleLint.Proofs.Url.Scheme
import RuleLint.Proofs.Lint.Messages
import RuleLint.Proofs.Lint.TextLines
import RuleLint.Proofs.Settings.Anchoring
import RuleLint.Proofs.Source.TrustedPath
import RuleLint.Proofs.Lint.LocalSources
import RuleLint.Proofs.Program.Outcome
import RuleLint.Proofs.Rule.Verdict
import RuleLint.Proofs.LineEndings
import RuleLint.Proofs.Rule.LineByLine
import RuleLint.Proofs.Profile.References
import RuleLint.Proofs.Profile.Names
import RuleLint.Proofs.Settings.Overriding
import RuleLint.Proofs.Path.Confined
import RuleLint.Proofs.Rule.Quoting
import RuleLint.Proofs.Probe.Chains
import RuleLint.Proofs.Lint.Naming
import RuleLint.Proofs.Discovery
