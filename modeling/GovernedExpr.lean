import GovernedExpr.CommandLine.Arguments
import GovernedExpr.CommandLine.Run
import GovernedExpr.Decimal.Binary64
import GovernedExpr.Files.Tree
import GovernedExpr.Files.View
import GovernedExpr.Format.Registry
import GovernedExpr.Governance.Builtin
import GovernedExpr.Governance.Document
import GovernedExpr.Governance.Error
import GovernedExpr.Governance.Overlay
import GovernedExpr.Governance.Record
import GovernedExpr.Governance.Settings
import GovernedExpr.Governance.Stage
import GovernedExpr.Governance.Store
import GovernedExpr.Lexing.Classifier
import GovernedExpr.Lexing.Numbering
import GovernedExpr.Lexing.Token
import GovernedExpr.Lexing.Tokenizer
import GovernedExpr.Main
import GovernedExpr.Parsing.Climb
import GovernedExpr.Parsing.Cursor
import GovernedExpr.Parsing.Error
import GovernedExpr.Parsing.Precedence
import GovernedExpr.Parsing.Settings
import GovernedExpr.Pattern.Basic
import GovernedExpr.Pattern.ClassReader
import GovernedExpr.Pattern.Cost
import GovernedExpr.Pattern.Cursor
import GovernedExpr.Pattern.Extent
import GovernedExpr.Pattern.Reader
import GovernedExpr.Pattern.Resolve
import GovernedExpr.Pattern.Shape
import GovernedExpr.Pattern.Written
import GovernedExpr.Pipeline
import GovernedExpr.Proofs.CommandLine.TokenListing
import GovernedExpr.Proofs.Decimal.Rounding
import GovernedExpr.Proofs.Decimal.Shortest
import GovernedExpr.Proofs.Format.Registration
import GovernedExpr.Proofs.Governance.Defaults
import GovernedExpr.Proofs.Governance.Explained
import GovernedExpr.Proofs.Governance.Flattening
import GovernedExpr.Proofs.Governance.History
import GovernedExpr.Proofs.Governance.Integers
import GovernedExpr.Proofs.Governance.Keys
import GovernedExpr.Proofs.Governance.Levels
import GovernedExpr.Proofs.Governance.Overlaying
import GovernedExpr.Proofs.Governance.Passes
import GovernedExpr.Proofs.Governance.PatternKeys
import GovernedExpr.Proofs.Governance.PrecedenceKeys
import GovernedExpr.Proofs.Governance.Sections
import GovernedExpr.Proofs.Governance.Shadowing
import GovernedExpr.Proofs.Governance.Views
import GovernedExpr.Proofs.Lexing.Classification
import GovernedExpr.Proofs.Lexing.Exclusive
import GovernedExpr.Proofs.Lexing.FullMatch
import GovernedExpr.Proofs.Lexing.Lexemes
import GovernedExpr.Proofs.Lexing.Spacing
import GovernedExpr.Proofs.Lexing.Unmatched
import GovernedExpr.Proofs.Outcomes
import GovernedExpr.Proofs.Parsing.Alternation
import GovernedExpr.Proofs.Parsing.Calls
import GovernedExpr.Proofs.Parsing.Cursor
import GovernedExpr.Proofs.Parsing.Grammar
import GovernedExpr.Proofs.Parsing.Levelled
import GovernedExpr.Proofs.Parsing.MinimumLevel
import GovernedExpr.Proofs.Parsing.Nesting
import GovernedExpr.Proofs.Parsing.Ordering
import GovernedExpr.Proofs.Parsing.Places
import GovernedExpr.Proofs.Parsing.Policies
import GovernedExpr.Proofs.Pattern.Anchoring
import GovernedExpr.Proofs.Pattern.Local
import GovernedExpr.Proofs.Pattern.LocalClass
import GovernedExpr.Proofs.Pattern.LocalParts
import GovernedExpr.Proofs.Pattern.Runs
import GovernedExpr.Proofs.Pattern.Spans
import GovernedExpr.Proofs.Pattern.Stretches
import GovernedExpr.Proofs.Pipeline.Accounting
import GovernedExpr.Proofs.Pipeline.Emission
import GovernedExpr.Proofs.Pipeline.Errors
import GovernedExpr.Proofs.Pipeline.Influence
import GovernedExpr.Proofs.Pipeline.Options
import GovernedExpr.Proofs.Pipeline.Progress
import GovernedExpr.Proofs.Pipeline.Stages
import GovernedExpr.Proofs.Pipeline.Tail
import GovernedExpr.Proofs.Text.Decimal
import GovernedExpr.Proofs.Text.Lines
import GovernedExpr.Proofs.Tree.Counting
import GovernedExpr.Proofs.Tree.JsonPieces
import GovernedExpr.Proofs.Tree.JsonReading
import GovernedExpr.Proofs.Tree.Layout
import GovernedExpr.Proofs.Tree.Outline
import GovernedExpr.Proofs.Tree.Preorder
import GovernedExpr.Proofs.Tree.Touring
import GovernedExpr.Proofs.Yaml.NumberText
import GovernedExpr.Proofs.Yaml.Values
import GovernedExpr.Text.Blank
import GovernedExpr.Text.ByteRange
import GovernedExpr.Text.CodeSet
import GovernedExpr.Text.Filing
import GovernedExpr.Text.Numeral
import GovernedExpr.Tree.Basic
import GovernedExpr.Tree.Coordination
import GovernedExpr.Tree.Json
import GovernedExpr.Tree.Lisp
import GovernedExpr.Tree.Measure
import GovernedExpr.Tree.Walk
import GovernedExpr.Unicode.Age
import GovernedExpr.Unicode.Boundary
import GovernedExpr.Unicode.Category
import GovernedExpr.Unicode.Folding
import GovernedExpr.Unicode.Property
import GovernedExpr.Unicode.Query
import GovernedExpr.Unicode.Recent
import GovernedExpr.Unicode.Runs
import GovernedExpr.Unicode.Script
import GovernedExpr.Yaml.BlockScalar
import GovernedExpr.Yaml.Character
import GovernedExpr.Yaml.Layout
import GovernedExpr.Yaml.Node
import GovernedExpr.Yaml.Number
import GovernedExpr.Yaml.Scalar
import GovernedExpr.Yaml.Token
import GovernedExpr.Yaml.Value
