import ApiBindings.Bindings.Argument
import ApiBindings.Bindings.Binding
import ApiBindings.Bindings.Bundle
import ApiBindings.Bindings.Dispatch
import ApiBindings.Bindings.Dispatcher
import ApiBindings.Bindings.Documentation
import ApiBindings.Bindings.Expansion
import ApiBindings.Bindings.Layout
import ApiBindings.Bindings.Report
import ApiBindings.Bindings.Sample
import ApiBindings.Bindings.Signature
import ApiBindings.Command.Arguments
import ApiBindings.Command.Run
import ApiBindings.Files.Call
import ApiBindings.Files.Path
import ApiBindings.Files.Plan
import ApiBindings.Files.Tree
import ApiBindings.Files.Write
import ApiBindings.Json.Codec
import ApiBindings.Json.Decimal
import ApiBindings.Json.Double
import ApiBindings.Json.Fault
import ApiBindings.Json.Literal
import ApiBindings.Json.Numeral
import ApiBindings.Json.Outline
import ApiBindings.Json.Symbol
import ApiBindings.Json.Token
import ApiBindings.Json.Value
import ApiBindings.Service.Description
import ApiBindings.Service.Document
import ApiBindings.Service.Metadata
import ApiBindings.Service.NameTable
import ApiBindings.Service.Operation
import ApiBindings.Service.Shape
import ApiBindings.Text.Blank
import ApiBindings.Text.Brief
import ApiBindings.Text.Case
import ApiBindings.Text.CaseTable
import ApiBindings.Text.CharRange
import ApiBindings.Text.Docstring
import ApiBindings.Text.MarkTable
import ApiBindings.Text.Name
import ApiBindings.Text.Phrase
import ApiBindings.Text.Placeholder
import ApiBindings.Text.Quoted
import ApiBindings.Main
import ApiBindings.Proofs.Binding
import ApiBindings.Proofs.Cycle
import ApiBindings.Proofs.Descent
import ApiBindings.Proofs.Rendering
import ApiBindings.Proofs.Recursion
import ApiBindings.Proofs.Report
import ApiBindings.Proofs.Transport
import ApiBindings.Proofs.Walk
import ApiBindings.Proofs.Outcome
import ApiBindings.Proofs.Bundle
import ApiBindings.Proofs.Docstring
import ApiBindings.Proofs.Obstacle
import ApiBindings.Proofs.Delivery
import ApiBindings.Proofs.Alike
import ApiBindings.Proofs.Reach
import ApiBindings.Proofs.Markup
import ApiBindings.Proofs.Split
import ApiBindings.Proofs.Delimiter
import ApiBindings.Proofs.Numeral
import ApiBindings.Proofs.Sample
import ApiBindings.Proofs.Legible
import ApiBindings.Proofs.Literal
import ApiBindings.Proofs.Outline
import ApiBindings.Proofs.Codec
import ApiBindings.Proofs.Document
import ApiBindings.Proofs.Place
import ApiBindings.Proofs.Execution
import ApiBindings.Proofs.Access
import ApiBindings.Proofs.Growth
import ApiBindings.Proofs.Replacement
import ApiBindings.Proofs.Folder
import ApiBindings.Proofs.Separation
import ApiBindings.Proofs.Preview
import ApiBindings.Proofs.Quotation
import ApiBindings.Proofs.Requirement
import ApiBindings.Proofs.Name
import ApiBindings.Proofs.Identifier
import ApiBindings.Proofs.LowerCase
import ApiBindings.Proofs.RegularName
import ApiBindings.Proofs.Merging
import ApiBindings.Proofs.Chain
import ApiBindings.Proofs.Record
import ApiBindings.Proofs.Likeness
import ApiBindings.Proofs.KeyOrder
import ApiBindings.Proofs.Arrangement
import ApiBindings.Proofs.Argument
import ApiBindings.Proofs.Template
import ApiBindings.Proofs.Wording
import ApiBindings.Proofs.Indentation
import ApiBindings.Proofs.Brief
import ApiBindings.Proofs.Bracket
import ApiBindings.Proofs.Summary
import ApiBindings.Proofs.Enumeration
import ApiBindings.Proofs.ModuleName
