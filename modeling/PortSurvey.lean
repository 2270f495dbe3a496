import PortSurvey.Analysis
import PortSurvey.Archetype.Basic
import PortSurvey.Archetype.Rows
import PortSurvey.Archetype.Table
import PortSurvey.Artifact.Basic
import PortSurvey.Artifact.BuildFile
import PortSurvey.Artifact.Chart
import PortSurvey.Artifact.Compose
import PortSurvey.Artifact.Manifest
import PortSurvey.Artifact.Provisioning
import PortSurvey.Artifact.Read
import PortSurvey.Declaration
import PortSurvey.Dict
import PortSurvey.Disk.Basic
import PortSurvey.Disk.Glob
import PortSurvey.Disk.Ignore
import PortSurvey.Disk.Walk
import PortSurvey.Inventory.Basic
import PortSurvey.Inventory.Report
import PortSurvey.Logging
import PortSurvey.Path
import PortSurvey.Pattern.Basic
import PortSurvey.Pattern.Brackets
import PortSurvey.Pattern.CategoryTable
import PortSurvey.Pattern.CharSet
import PortSurvey.Pattern.Escape
import PortSurvey.Pattern.FoldTable
import PortSurvey.Pattern.LetterTable
import PortSurvey.Pattern.Parse
import PortSurvey.Pattern.Property
import PortSurvey.Pattern.PropertyTable
import PortSurvey.Pattern.ScriptTable
import PortSurvey.Pattern.Size
import PortSurvey.Port.Range
import PortSurvey.Profile.Basic
import PortSurvey.Profile.Container
import PortSurvey.Profile.Documented
import PortSurvey.Profile.Guess
import PortSurvey.Proofs.Analysis.Additivity
import PortSurvey.Proofs.Analysis.Answers
import PortSurvey.Proofs.Analysis.Declared
import PortSurvey.Proofs.Analysis.Earned
import PortSurvey.Proofs.Analysis.Enforcement
import PortSurvey.Proofs.Analysis.Governance
import PortSurvey.Proofs.Analysis.Populated
import PortSurvey.Proofs.Analysis.Precedence
import PortSurvey.Proofs.Analysis.Rules
import PortSurvey.Proofs.Analysis.Traffic
import PortSurvey.Proofs.Analysis.Trust
import PortSurvey.Proofs.Analysis.WebProtocol
import PortSurvey.Proofs.Archetype.Table
import PortSurvey.Proofs.Artifact.Display
import PortSurvey.Proofs.Artifact.Forms
import PortSurvey.Proofs.Artifact.Manifest
import PortSurvey.Proofs.Artifact.Spelling
import PortSurvey.Proofs.Artifact.Traversal
import PortSurvey.Proofs.Artifact.WellFormed
import PortSurvey.Proofs.Declaration
import PortSurvey.Proofs.Dict
import PortSurvey.Proofs.Except
import PortSurvey.Proofs.Inventory.Lookup
import PortSurvey.Proofs.Inventory.Selection
import PortSurvey.Proofs.Path
import PortSurvey.Proofs.Path.Parts
import PortSurvey.Proofs.Path.Spelling
import PortSurvey.Proofs.Port.Range
import PortSurvey.Proofs.Port.Written
import PortSurvey.Proofs.Profile.Auth
import PortSurvey.Proofs.Profile.Basic
import PortSurvey.Proofs.Profile.Container
import PortSurvey.Proofs.Profile.Description
import PortSurvey.Proofs.Profile.Populated
import PortSurvey.Proofs.Registry
import PortSurvey.Proofs.Settings.Layering
import PortSurvey.Proofs.Survey.Isolation
import PortSurvey.Proofs.Survey.Limits
import PortSurvey.Proofs.Survey.Order
import PortSurvey.Proofs.Survey.Relative
import PortSurvey.Proofs.Survey.Subdirectory
import PortSurvey.Proofs.Survey.WellFormed
import PortSurvey.Proofs.Text.Blank
import PortSurvey.Proofs.Text.Lines
import PortSurvey.Proofs.Text.Numeral
import PortSurvey.Proofs.Text.Split
import PortSurvey.Proofs.Text.Trim
import PortSurvey.Proofs.Tree.Additions
import PortSurvey.Proofs.Tree.Agreement
import PortSurvey.Proofs.Tree.Alike
import PortSurvey.Proofs.Tree.Basic
import PortSurvey.Proofs.Tree.Reach
import PortSurvey.Proofs.Tree.Search
import PortSurvey.Proofs.Tree.Walk
import PortSurvey.Registry.Assumptions
import PortSurvey.Registry.Basic
import PortSurvey.Registry.Level
import PortSurvey.Registry.Rows
import PortSurvey.Release
import PortSurvey.Settings.Basic
import PortSurvey.Settings.Fault
import PortSurvey.Settings.File
import PortSurvey.Settings.Layer
import PortSurvey.Settings.TomlLayer
import PortSurvey.Settings.Validate
import PortSurvey.Settings.YamlLayer
import PortSurvey.Survey
import PortSurvey.Text.Blank
import PortSurvey.Text.Case
import PortSurvey.Text.CaseTable
import PortSurvey.Text.Decimal
import PortSurvey.Text.Numeral
import PortSurvey.Text.Quoted
import PortSurvey.Text.QuotedTable
import PortSurvey.Text.Ranges
import PortSurvey.Text.Search
import PortSurvey.Text.Split
import PortSurvey.Text.WordTable
import PortSurvey.Toml.Document
import PortSurvey.Toml.Number
import PortSurvey.Toml.Text
import PortSurvey.Toml.Value
import PortSurvey.Tree.Basic
import PortSurvey.Yaml.Character
import PortSurvey.Yaml.Cursor
import PortSurvey.Yaml.Fault
import PortSurvey.Yaml.Node
import PortSurvey.Yaml.Read
import PortSurvey.Yaml.Record
import PortSurvey.Yaml.Scalar
import PortSurvey.Yaml.Stream
import PortSurvey.Yaml.Token
import PortSurvey.Yaml.Token.Property
import PortSurvey.Yaml.Token.Scalar
import PortSurvey.Yaml.Token.Stream
import PortSurvey.Yaml.Value
import PortSurvey.Proofs.Analysis.Patterns
import PortSurvey.Proofs.Analysis.Unidentified
import PortSurvey.Proofs.Settings.Overrides
import PortSurvey.Proofs.Settings.Keys
import PortSurvey.Proofs.Settings.Requirement
import PortSurvey.Proofs.Settings.Acceptance
import PortSurvey.Proofs.Text.Search
import PortSurvey.Proofs.Artifact.Provisioning.Assignment
import PortSurvey.Proofs.Artifact.Provisioning.Declared
import PortSurvey.Proofs.Artifact.Provisioning.Header
import PortSurvey.Proofs.Artifact.Provisioning.Enclosure
import PortSurvey.Proofs.Artifact.Provisioning.Account
import PortSurvey.Proofs.Artifact.Provisioning.Nesting
import PortSurvey.Proofs.Artifact.Provisioning.Comment
import PortSurvey.Proofs.Artifact.Provisioning.Pairing
import PortSurvey.Proofs.Artifact.Provisioning.Reach
import PortSurvey.Proofs.Artifact.Provisioning.Shift
import PortSurvey.Proofs.Artifact.Provisioning.Inert
import PortSurvey.Proofs.Text.Words
import PortSurvey.Proofs.Artifact.BuildFile.Statements
import PortSurvey.Proofs.Artifact.BuildFile.Comment
import PortSurvey.Proofs.Text.Quantifier
import PortSurvey.Proofs.Artifact.BuildFile.Instructions
import PortSurvey.Proofs.Artifact.BuildFile.Continuation
import PortSurvey.Proofs.Artifact.Variable
import PortSurvey.Proofs.Artifact.Chart.Naming
import PortSurvey.Proofs.Artifact.Chart.Route
import PortSurvey.Proofs.Analysis.Padding
import PortSurvey.Proofs.Registry.Tiers
import PortSurvey.Proofs.Registry.Assumptions
import PortSurvey.Inventory.Index
import PortSurvey.Proofs.Inventory.Index
import PortSurvey.Proofs.Inventory.Report
import PortSurvey.Proofs.Analysis.OwnPort
import PortSurvey.Proofs.Profile.Truthful
import PortSurvey.Proofs.Profile.WebServer
import PortSurvey.Proofs.Text.Visible
import PortSurvey.Proofs.Artifact.BuildFile.Blocks
import PortSurvey.Proofs.Artifact.BuildFile.Lossless
import PortSurvey.Proofs.Port.Grammar
