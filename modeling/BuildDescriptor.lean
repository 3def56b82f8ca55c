import BuildDescriptor.Main
import BuildDescriptor.Proofs.Bind
import BuildDescriptor.Proofs.Condition.Derivation
import BuildDescriptor.Proofs.Condition.Lexeme
import BuildDescriptor.Proofs.Condition.Shape
import BuildDescriptor.Proofs.Condition.Equality
import BuildDescriptor.Proofs.Condition.QuotedEquality
import BuildDescriptor.Proofs.Project.Pairs
import BuildDescriptor.Proofs.Json.Scalar
import BuildDescriptor.Proofs.Json.Spelling
import BuildDescriptor.Proofs.Json.Quoting
import BuildDescriptor.Proofs.Json.Listing
import BuildDescriptor.Proofs.Json.Salvage
import BuildDescriptor.Proofs.Json.Truncation
import BuildDescriptor.Proofs.Database.Truncation
import BuildDescriptor.Proofs.Flag.Words
import BuildDescriptor.Proofs.Json.Nesting
import BuildDescriptor.Proofs.Json.Occurrence
import BuildDescriptor.Proofs.Database.Surroundings
import BuildDescriptor.Proofs.Condition.Limit
import BuildDescriptor.Proofs.Condition.Parentheses
import BuildDescriptor.Proofs.Condition.Compound
import BuildDescriptor.Proofs.Json.Limits
import BuildDescriptor.Proofs.Database.Limits
import BuildDescriptor.Proofs.Project.Loading
import BuildDescriptor.Proofs.Xml.Declarations
import BuildDescriptor.Proofs.Descriptor.Faults
import BuildDescriptor.Proofs.Database.Commands
import BuildDescriptor.Proofs.Project.History
import BuildDescriptor.Proofs.Session.History
import BuildDescriptor.Proofs.Path.Characters
import BuildDescriptor.Proofs.Descriptor.Units
import BuildDescriptor.Proofs.Session.Platforms
import BuildDescriptor.Proofs.Project.Layout
import BuildDescriptor.Proofs.Database.Elements
import BuildDescriptor.Proofs.Database.Invocations
import BuildDescriptor.Proofs.Xml.Order
import BuildDescriptor.Proofs.Project.Product
import BuildDescriptor.Proofs.Descriptor.Definitions
import BuildDescriptor.Proofs.Platform.Fields
import BuildDescriptor.Proofs.Session.Layouts
import BuildDescriptor.Proofs.Session.PlatformFiles
import BuildDescriptor.Proofs.Condition.Template
import BuildDescriptor.Proofs.Condition.LongestLexeme
import BuildDescriptor.Proofs.CommandLine.Import
import BuildDescriptor.Proofs.Condition.Walk
import BuildDescriptor.Proofs.Path.NormalForm
import BuildDescriptor.Proofs.Project.SourcePath
import BuildDescriptor.Proofs.Text.Numeral
import BuildDescriptor.Proofs.Xml.Scanning
import BuildDescriptor.Proofs.Xml.Spelling
import BuildDescriptor.Proofs.Platform.Overriding
import BuildDescriptor.Proofs.Platform.Writing
import BuildDescriptor.Proofs.Project.ItemList
import BuildDescriptor.Proofs.Condition.Operators
import BuildDescriptor.Proofs.Project.Reloading
import BuildDescriptor.Proofs.Json.Writing
import BuildDescriptor.Proofs.Report.Units
import BuildDescriptor.Proofs.Condition.Descent
import BuildDescriptor.Proofs.Condition.OpenCalls
import BuildDescriptor.Proofs.Flag.Reuse
