import DeployTree.Attributed
import DeployTree.CommandLine.Arguments
import DeployTree.CommandLine.FileMap
import DeployTree.CommandLine.FileStore
import DeployTree.CommandLine.Path
import DeployTree.CommandLine.Program
import DeployTree.Decimal.Shortest
import DeployTree.Description
import DeployTree.Description.Document
import DeployTree.Dictionary
import DeployTree.Environment.Bindings
import DeployTree.Environment.Interpolator
import DeployTree.Environment.Placeholder
import DeployTree.Error
import DeployTree.Event
import DeployTree.Instrument.Probe
import DeployTree.Json
import DeployTree.Json.Cursor
import DeployTree.Json.Failure
import DeployTree.Json.Numeral
import DeployTree.Json.Printer
import DeployTree.Json.Reader
import DeployTree.Json.StringReader
import DeployTree.Json.ValueReader
import DeployTree.Log.Filter
import DeployTree.Main
import DeployTree.NodeId
import DeployTree.Pattern
import DeployTree.Pattern.Derivative
import DeployTree.Pattern.Regex
import DeployTree.Proofs.Environment.Lingering
import DeployTree.Proofs.Environment.Occurrence
import DeployTree.Proofs.Pattern.Alphabet
import DeployTree.Proofs.Pattern.Language
import DeployTree.Rule
import DeployTree.Run
import DeployTree.Schema
import DeployTree.Schema.Column
import DeployTree.Schema.Deployment
import DeployTree.Schema.Element
import DeployTree.Schema.Relation
import DeployTree.Text.Blank
import DeployTree.Text.CaseFold
import DeployTree.Text.DecimalDigit
import DeployTree.Text.Encoded
import DeployTree.Text.GraphemeExtend
import DeployTree.Text.Ignorable
import DeployTree.Text.Printable
import DeployTree.Text.Quoted
import DeployTree.Text.Ranges
import DeployTree.Text.Split
import DeployTree.Text.WordChar
import DeployTree.Tree
import DeployTree.Tree.Arena
import DeployTree.Tree.Node
import DeployTree.Tree.View
import DeployTree.Validation
import DeployTree.Value
import DeployTree.Value.Encoding
import DeployTree.Proofs.Environment.Filling
import DeployTree.Proofs.Tree.Outlook
import DeployTree.Proofs.Tree.Forest
import DeployTree.Proofs.Tree.Passes
import DeployTree.Proofs.Schema.Manner
import DeployTree.Proofs.Tree.Growth
import DeployTree.Proofs.Description.Layout
import DeployTree.Proofs.Description.Settling
import DeployTree.Proofs.Description.Rendering
import DeployTree.Proofs.Description.Generation
import DeployTree.Proofs.Description.Validity
import DeployTree.Proofs.Tree.Lineage
import DeployTree.Proofs.Tree.Building
import DeployTree.Proofs.Tree.Calls
import DeployTree.Proofs.Tree.Protocol
import DeployTree.Proofs.Tree.Numbering
import DeployTree.Proofs.Schema.Numbering
import DeployTree.Proofs.Description.Noninterference
import DeployTree.Proofs.Description.Checking
import DeployTree.Proofs.Tree.Sight
import DeployTree.Proofs.Tree.Wiring
import DeployTree.Proofs.Environment.Trail
import DeployTree.Proofs.Description.Trail
import DeployTree.Proofs.Description.Log
import DeployTree.Proofs.Json.Reading
import DeployTree.Proofs.Json.Numerals
import DeployTree.Proofs.Json.Values
import DeployTree.Proofs.Json.Depth
import DeployTree.Proofs.Description.RoundTrip
import DeployTree.Proofs.Value.Flag
import DeployTree.Proofs.Pattern.Names
import DeployTree.Proofs.Tree.Stopping
import DeployTree.Proofs.Description.Blame
import DeployTree.Proofs.Schema.Accessors
import DeployTree.Proofs.Schema.Inheritance
import DeployTree.Proofs.CommandLine.Writing
import DeployTree.Proofs.CommandLine.AllOrNothing
import DeployTree.Proofs.Tree.Traversal
import DeployTree.Proofs.Tree.Reached
import DeployTree.Proofs.Tree.Ascent
import DeployTree.Proofs.Environment.Substitution
import DeployTree.Proofs.Tree.Verdict
import DeployTree.Proofs.Description.DocumentOrder
import DeployTree.Proofs.Schema.Interpolation
import DeployTree.Proofs.Schema.JobNames
import DeployTree.Proofs.Description.JobNames
import DeployTree.Proofs.Description.SharedJobs
import DeployTree.Proofs.Pattern.DottedNames
import DeployTree.Proofs.Environment.Scan
import DeployTree.Proofs.Environment.Sources
import DeployTree.Proofs.Schema.AccessorLaws
import DeployTree.Proofs.CommandLine.Shadowing
import DeployTree.Proofs.Pattern.Lengths
import DeployTree.Proofs.Json.Rejecting
import DeployTree.Proofs.Value.Encoding
