import JavadocAudit.ClassTable.Basic
import JavadocAudit.ClassTable.Standard
import JavadocAudit.CommandLine.Arguments
import JavadocAudit.CommandLine.Basic
import JavadocAudit.Comment
import JavadocAudit.Config.Basic
import JavadocAudit.Config.Decode
import JavadocAudit.Config.Issue
import JavadocAudit.Config.Library
import JavadocAudit.Config.Standard
import JavadocAudit.Config.Value
import JavadocAudit.Diagnostic.Basic
import JavadocAudit.Diagnostic.Message
import JavadocAudit.Dict
import JavadocAudit.Document.Base64
import JavadocAudit.Document.ClockTime
import JavadocAudit.Document.Construction
import JavadocAudit.Document.Cursor
import JavadocAudit.Document.Fault
import JavadocAudit.Document.Node.Basic
import JavadocAudit.Document.Node.Kind
import JavadocAudit.Document.Node.Parse
import JavadocAudit.Document.Number
import JavadocAudit.Document.Token.Basic
import JavadocAudit.Document.Token.Property
import JavadocAudit.Document.Token.Scalar
import JavadocAudit.Document.Token.Scan
import JavadocAudit.FileCheck
import JavadocAudit.FileTree
import JavadocAudit.Glob
import JavadocAudit.Log
import JavadocAudit.Main
import JavadocAudit.Narrative
import JavadocAudit.Number.Binary64
import JavadocAudit.Number.Decimal
import JavadocAudit.Number.Shortest
import JavadocAudit.Path
import JavadocAudit.Pattern.Basic
import JavadocAudit.Pattern.Expr
import JavadocAudit.Pattern.Match
import JavadocAudit.Pattern.Reader
import JavadocAudit.Position
import JavadocAudit.Proofs.ClassTable.Extension
import JavadocAudit.Proofs.ClassTable.Imports
import JavadocAudit.Proofs.ClassTable.Lookup
import JavadocAudit.Proofs.ClassTable.Reachability
import JavadocAudit.Proofs.ClassTable.Segments
import JavadocAudit.Proofs.ClassTable.Subtyping
import JavadocAudit.Proofs.CommandLine.Arguments
import JavadocAudit.Proofs.CommandLine.Paths
import JavadocAudit.Proofs.CommandLine.Pool
import JavadocAudit.Proofs.Config.Failure
import JavadocAudit.Proofs.Config.Layout
import JavadocAudit.Proofs.Config.Spelling
import JavadocAudit.Proofs.FileCheck.Pointing
import JavadocAudit.Proofs.FileCheck.Sources
import JavadocAudit.Proofs.Narrative
import JavadocAudit.Proofs.Source.Clauses
import JavadocAudit.Proofs.Source.Declarations
import JavadocAudit.Proofs.Source.DeclaredClasses
import JavadocAudit.Proofs.Source.Derivation
import JavadocAudit.Proofs.Source.Documented
import JavadocAudit.Proofs.Source.ErasedName
import JavadocAudit.Proofs.Source.Naming
import JavadocAudit.Proofs.Source.Nesting
import JavadocAudit.Proofs.Source.Place
import JavadocAudit.Proofs.Source.Preorder
import JavadocAudit.Proofs.Source.Spacing
import JavadocAudit.Proofs.Source.Subtrees
import JavadocAudit.Proofs.Source.Token
import JavadocAudit.Proofs.Source.Traversal
import JavadocAudit.Proofs.Source.TypeParts
import JavadocAudit.Proofs.Source.Written
import JavadocAudit.Proofs.Tag.Grammar
import JavadocAudit.Proofs.Tag.Layout
import JavadocAudit.Proofs.Tag.Marker
import JavadocAudit.Proofs.Tag.Padding
import JavadocAudit.Proofs.Tag.Place
import JavadocAudit.Proofs.Tag.Selection
import JavadocAudit.Proofs.Tag.Writing
import JavadocAudit.Proofs.Text.Blank
import JavadocAudit.Proofs.Text.Case
import JavadocAudit.Proofs.Text.Identifier
import JavadocAudit.Proofs.Text.Line
import JavadocAudit.Proofs.Text.Utf8
import JavadocAudit.Proofs.Text.Word
import JavadocAudit.Proofs.ThrowsMatch
import JavadocAudit.Proofs.Verification.Clean
import JavadocAudit.Proofs.Verification.Counting
import JavadocAudit.Proofs.Verification.Coverage
import JavadocAudit.Proofs.Verification.Exemption
import JavadocAudit.Proofs.Verification.Failure
import JavadocAudit.Proofs.Verification.Fate
import JavadocAudit.Proofs.Verification.Findings
import JavadocAudit.Proofs.Verification.Inherited
import JavadocAudit.Proofs.Verification.Insertion
import JavadocAudit.Proofs.Verification.Leniency
import JavadocAudit.Proofs.Verification.LineBreaks
import JavadocAudit.Proofs.Verification.Marks
import JavadocAudit.Proofs.Verification.Order
import JavadocAudit.Proofs.Verification.Params
import JavadocAudit.Proofs.Verification.Rearrangement
import JavadocAudit.Proofs.Verification.Report
import JavadocAudit.Proofs.Verification.TagPool
import JavadocAudit.Proofs.Verification.Throws
import JavadocAudit.Proofs.Verification.Verbatim
import JavadocAudit.Proofs.Verification.Wording
import JavadocAudit.Resolver
import JavadocAudit.Settings
import JavadocAudit.Signature
import JavadocAudit.Source.File
import JavadocAudit.Source.Grammar.Construct
import JavadocAudit.Source.Grammar.Rule
import JavadocAudit.Source.Header
import JavadocAudit.Source.Parser
import JavadocAudit.Source.Point
import JavadocAudit.Source.Token.Basic
import JavadocAudit.Source.Token.Scan
import JavadocAudit.Source.Tree
import JavadocAudit.Source.Walk
import JavadocAudit.Suppression
import JavadocAudit.Tag.Basic
import JavadocAudit.Tag.Extraction
import JavadocAudit.Text.Blank
import JavadocAudit.Text.Case
import JavadocAudit.Text.CodeRanges
import JavadocAudit.Text.Digit
import JavadocAudit.Text.Identifier
import JavadocAudit.Text.Integer
import JavadocAudit.Text.Line
import JavadocAudit.Text.Printable
import JavadocAudit.Text.Quoted
import JavadocAudit.Text.Utf8
import JavadocAudit.Text.Word
import JavadocAudit.ThrowsMatch
import JavadocAudit.Verification
