import SchemaStruct.Logger
import SchemaStruct.Main
import SchemaStruct.Config.Manager
import SchemaStruct.Source.Command
import SchemaStruct.Template.Engine
import SchemaStruct.Proofs.Naming.Identifier
import SchemaStruct.Proofs.CSharp.AssignedNames
import SchemaStruct.Proofs.Returns
import SchemaStruct.Proofs.Schema.Layers
import SchemaStruct.Proofs.Source.Pages
import SchemaStruct.Proofs.CSharp.Types
import SchemaStruct.Proofs.CSharp.Constructors
import SchemaStruct.Proofs.Schema.Forms
import SchemaStruct.Proofs.Schema.Steps
import SchemaStruct.Proofs.Schema.Graphs
import SchemaStruct.Proofs.Schema.Closure
import SchemaStruct.Proofs.Schema.Bindings
import SchemaStruct.Proofs.Schema.Calls
import SchemaStruct.Proofs.Schema.References
import SchemaStruct.Proofs.Faults
import SchemaStruct.Proofs.Schema.Refusals
import SchemaStruct.Proofs.Schema.Records
import SchemaStruct.Proofs.Schema.Recursion
import SchemaStruct.Proofs.Source.Renders
import SchemaStruct.Proofs.CSharp.Sections
import SchemaStruct.Proofs.CSharp.Refinement
import SchemaStruct.Proofs.CSharp.Generation
import SchemaStruct.Proofs.Source.Tidy
import SchemaStruct.Proofs.CSharp.Layout
import SchemaStruct.Proofs.Schema.TopLevel
import SchemaStruct.Proofs.Json.Values
import SchemaStruct.Proofs.Schema.Inside
import SchemaStruct.Proofs.Schema.Termination
import SchemaStruct.Proofs.Schema.Reached
import SchemaStruct.Proofs.Schema.Repeated
import SchemaStruct.Proofs.Schema.Parts
import SchemaStruct.Proofs.Schema.OnePart
import SchemaStruct.Proofs.Text.Case
import SchemaStruct.Proofs.Generator.Registries
import SchemaStruct.Proofs.Generator.Names
import SchemaStruct.Proofs.Naming.Initials
import SchemaStruct.Proofs.CSharp.TypeNames
import SchemaStruct.Proofs.Text.Breaks
import SchemaStruct.Proofs.Source.Contents
import SchemaStruct.Proofs.CSharp.Pieces
import SchemaStruct.Proofs.CSharp.Breaks
import SchemaStruct.Proofs.CommandLine.Settings
import SchemaStruct.Proofs.CommandLine.Agreement
import SchemaStruct.Proofs.CSharp.Parameters
import SchemaStruct.Proofs.Web.Loading
import SchemaStruct.Proofs.CSharp.Presentation
import SchemaStruct.Proofs.Schema.Strays
import SchemaStruct.Proofs.Schema.Stops
import SchemaStruct.Proofs.CSharp.Cycles
import SchemaStruct.Proofs.CSharp.TypeTexts
import SchemaStruct.Proofs.CSharp.Usings
import SchemaStruct.Proofs.Json.Overrides
import SchemaStruct.Proofs.Schema.FlatMerge
import SchemaStruct.Proofs.Schema.Pointers
import SchemaStruct.Proofs.CSharp.Attributes
import SchemaStruct.Proofs.CSharp.Documentation
import SchemaStruct.Proofs.Schema.Outcomes
import SchemaStruct.Proofs.Schema.Spellings
import SchemaStruct.Proofs.Naming.Histories
import SchemaStruct.Proofs.Naming.Letters
import SchemaStruct.Proofs.Naming.Canonical
import SchemaStruct.Proofs.CSharp.Substances
import SchemaStruct.Proofs.CSharp.Lookups
import SchemaStruct.Proofs.CSharp.Growth
import SchemaStruct.Proofs.Source.NormalForm
import SchemaStruct.Proofs.Source.Leaves
import SchemaStruct.Proofs.Source.Depths
import SchemaStruct.Proofs.Source.Listings
import SchemaStruct.Proofs.CSharp.Sessions
import SchemaStruct.Proofs.Source.Regrouping
import SchemaStruct.Proofs.Source.Printed
import SchemaStruct.Proofs.Source.Deepening
import SchemaStruct.Proofs.Template.Indentation
import SchemaStruct.Proofs.CSharp.Printing
import SchemaStruct.Proofs.CSharp.Indentation
import SchemaStruct.Proofs.CSharp.Namespaces
import SchemaStruct.Proofs.Config.Layers
import SchemaStruct.Proofs.Config.Managers
import SchemaStruct.Proofs.Config.Precedence
