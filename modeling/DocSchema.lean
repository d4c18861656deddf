import DocSchema.Artifact
import DocSchema.Cardinality
import DocSchema.Checked
import DocSchema.CommandLine.Arguments
import DocSchema.CommandLine.Report
import DocSchema.CommandLine.Run
import DocSchema.Comment
import DocSchema.Compile
import DocSchema.Content
import DocSchema.Declaration
import DocSchema.Declaration.Parser
import DocSchema.Definition
import DocSchema.Definition.Check
import DocSchema.Definition.Problem
import DocSchema.Diagnostic
import DocSchema.FileTree
import DocSchema.Graph
import DocSchema.Graph.Dump
import DocSchema.Json
import DocSchema.JsonSchema
import DocSchema.Link.DataTypes
import DocSchema.Link.Names
import DocSchema.Link.Problem
import DocSchema.Main
import DocSchema.Manual
import DocSchema.Number.Binary64
import DocSchema.Number.Integer
import DocSchema.Occurrence
import DocSchema.Pattern.CharSet
import DocSchema.Pattern.Compile
import DocSchema.Pattern.Dialect
import DocSchema.Pattern.Fault
import DocSchema.Pattern.Form
import DocSchema.Pattern.Match
import DocSchema.Pattern.Piece
import DocSchema.Pattern.Program.Basic
import DocSchema.Pattern.Program.Build
import DocSchema.Pattern.Program.Bytes
import DocSchema.Pattern.Reader
import DocSchema.Pattern.Regex
import DocSchema.Pattern.Tree
import DocSchema.Primitive
import DocSchema.Proofs.Compile
import DocSchema.Proofs.Grammar
import DocSchema.Proofs.Grammar.Parser
import DocSchema.Proofs.Number
import DocSchema.Proofs.Populated
import DocSchema.Proofs.Reach
import DocSchema.Proofs.Result
import DocSchema.Proofs.WellLinked
import DocSchema.Proofs.Xml.Node
import DocSchema.Proofs.Xml.Reader
import DocSchema.Proofs.Xml.Grammar
import DocSchema.Proofs.Xml.Nesting
import DocSchema.Proofs.XmlSchema.Items
import DocSchema.Proofs.XmlSchema.Reader
import DocSchema.Proofs.XmlSchema.References
import DocSchema.Proofs.XmlSchema.RoundTrip
import DocSchema.Proofs.XmlSchema.Shapes
import DocSchema.Proofs.XmlSchema.StartTags
import DocSchema.Quantifier
import DocSchema.Reach
import DocSchema.Render
import DocSchema.Sample
import DocSchema.Settings
import DocSchema.Span
import DocSchema.Structure
import DocSchema.Token
import DocSchema.Token.Lexer
import DocSchema.Toml.Reader
import DocSchema.Toml.Table
import DocSchema.Unicode.Age
import DocSchema.Unicode.Alphabetic
import DocSchema.Unicode.Binary
import DocSchema.Unicode.Blank
import DocSchema.Unicode.CaseFold
import DocSchema.Unicode.Category
import DocSchema.Unicode.GraphemeBreak
import DocSchema.Unicode.Lowercase
import DocSchema.Unicode.Numeric
import DocSchema.Unicode.Property
import DocSchema.Unicode.Range
import DocSchema.Unicode.RangeSet
import DocSchema.Unicode.Script
import DocSchema.Unicode.ScriptExtension
import DocSchema.Unicode.SentenceBreak
import DocSchema.Unicode.Utf8
import DocSchema.Unicode.WordBreak
import DocSchema.Xml
import DocSchema.XmlSchema
import DocSchema.Proofs.XmlSchema.Expressible
import DocSchema.Proofs.Json
import DocSchema.Proofs.JsonSchema.Definitions
import DocSchema.Proofs.BaseChain
import DocSchema.Proofs.XmlSchema.Values
import DocSchema.Proofs.JsonSchema.Values
import DocSchema.Proofs.Agreement
import DocSchema.Proofs.Content
import DocSchema.Proofs.Sample.Run
import DocSchema.Proofs.Sample.Children
import DocSchema.Proofs.Pattern.Escapes
import DocSchema.Proofs.Pattern.Classes
import DocSchema.Proofs.Pattern.Dialect
import DocSchema.Proofs.Pattern.Pieces
import DocSchema.Proofs.BaseCycles
import DocSchema.Proofs.Pattern.Complete
import DocSchema.Proofs.Sample.Values
import DocSchema.Proofs.Quantifier
import DocSchema.Proofs.Span
import DocSchema.Proofs.Token.Partition
import DocSchema.Proofs.Phases
import DocSchema.Proofs.Renumber
import DocSchema.Proofs.DeclarationOrder
import DocSchema.Proofs.Members
import DocSchema.Proofs.CycleReports
import DocSchema.Proofs.XmlSchema.WellFormed
import DocSchema.Proofs.ContentList
import DocSchema.Proofs.DocumentationOrder
import DocSchema.Proofs.BreadthFirst
import DocSchema.Proofs.Pruning
import DocSchema.Proofs.FileTree
import DocSchema.Proofs.CommandLine
import DocSchema.Proofs.Places.Check
import DocSchema.Proofs.Token.Insertion
import DocSchema.Proofs.Places.Link
import DocSchema.Proofs.CommentInsertion
import DocSchema.Proofs.Dump
import DocSchema.Proofs.JsonSchema.Verdict
import DocSchema.Proofs.JsonSchema.Roots
import DocSchema.Proofs.Pattern.Atoms
import DocSchema.Proofs.Pattern.Brackets
import DocSchema.Proofs.Pattern.Reading
import DocSchema.Proofs.Pattern.Lookalikes
import DocSchema.Proofs.ConstraintReports
import DocSchema.Proofs.JsonSchema.RoundTrip
import DocSchema.Proofs.Xml.Events
import DocSchema.Proofs.Xml.Names
import DocSchema.Proofs.XmlSchema.Declarations
import DocSchema.Proofs.Sample.Steps
import DocSchema.Proofs.Sample.Names
import DocSchema.Proofs.Token.Faults
import DocSchema.Proofs.Grammar.Beginnings
import DocSchema.Proofs.Grammar.FirstError
import DocSchema.Proofs.Places.Source
import DocSchema.Proofs.Places.Problems
import DocSchema.Proofs.Places.Diagnostics
import DocSchema.Proofs.Warnings
import DocSchema.Proofs.XmlSchema.Defaults
import DocSchema.Proofs.Token.Printing
import DocSchema.Proofs.Token.Joining
import DocSchema.Proofs.Places.Shift
import DocSchema.Proofs.Embedding
import DocSchema.Proofs.Remarks
import DocSchema.Proofs.PropertyOrder
import DocSchema.Proofs.Concatenation
import DocSchema.Proofs.Collapse
import DocSchema.Proofs.Position
import DocSchema.Proofs.BaseEnds
