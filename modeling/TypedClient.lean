import TypedClient.Command.Environment
import TypedClient.Command.Flag
import TypedClient.Command.Run
import TypedClient.Command.Sample
import TypedClient.Command.Settings
import TypedClient.Command.Switch
import TypedClient.Command.Verb
import TypedClient.Description.Dereference
import TypedClient.Description.Field
import TypedClient.Description.Form
import TypedClient.Description.Schema
import TypedClient.Description.V2
import TypedClient.Description.V3
import TypedClient.Document.BodyMerge
import TypedClient.Document.Dict
import TypedClient.Document.Display
import TypedClient.Document.Json
import TypedClient.Document.Normal
import TypedClient.Document.Pointer
import TypedClient.Document.Text
import TypedClient.Document.Value
import TypedClient.Document.Version
import TypedClient.Draft
import TypedClient.Draft.Failure
import TypedClient.Draft.Finish
import TypedClient.Draft.FromDocument
import TypedClient.Draft.FromV2
import TypedClient.Draft.FromV3
import TypedClient.Draft.Lift
import TypedClient.Draft.Merge
import TypedClient.Draft.Naming
import TypedClient.Draft.Resolution
import TypedClient.Draft.Services
import TypedClient.Fault
import TypedClient.FileSystem
import TypedClient.Generation
import TypedClient.Main
import TypedClient.Model.Basic
import TypedClient.Model.OfSchema
import TypedClient.Model.Shape
import TypedClient.Naming.EnumKey
import TypedClient.Naming.Identifier
import TypedClient.Naming.Namespace
import TypedClient.Naming.Word
import TypedClient.Number.Binary64
import TypedClient.Number.Duration
import TypedClient.Number.Layout
import TypedClient.Number.Shortest
import TypedClient.Number.Whole
import TypedClient.Number.Word
import TypedClient.Operation
import TypedClient.Operation.MediaType
import TypedClient.Operation.Parameters
import TypedClient.Operation.Status
import TypedClient.Operation.StatusText
import TypedClient.Output.Commit
import TypedClient.Output.Layout
import TypedClient.Output.Plan
import TypedClient.Path
import TypedClient.Proofs.Command.Settings
import TypedClient.Proofs.Description.Dereference
import TypedClient.Proofs.Description.Places
import TypedClient.Proofs.Document.BodyMerge
import TypedClient.Proofs.Document.Canonical
import TypedClient.Proofs.Document.Dict
import TypedClient.Proofs.Document.Display
import TypedClient.Proofs.Document.Instance
import TypedClient.Proofs.Document.Mending
import TypedClient.Proofs.Document.Normal
import TypedClient.Proofs.Document.OneBody
import TypedClient.Proofs.Document.Ordered
import TypedClient.Proofs.Document.Place
import TypedClient.Proofs.Document.Pointer
import TypedClient.Proofs.Draft.Anonymous
import TypedClient.Proofs.Draft.Bodies
import TypedClient.Proofs.Draft.Cycles
import TypedClient.Proofs.Draft.Definitions
import TypedClient.Proofs.Draft.Extensions
import TypedClient.Proofs.Draft.Filtering
import TypedClient.Proofs.Draft.Finishing
import TypedClient.Proofs.Draft.Lift
import TypedClient.Proofs.Draft.Merging
import TypedClient.Proofs.Draft.Naming
import TypedClient.Proofs.Draft.Nodes
import TypedClient.Proofs.Draft.NullSafety
import TypedClient.Proofs.Draft.Order
import TypedClient.Proofs.Draft.Pipeline
import TypedClient.Proofs.Draft.Pointers
import TypedClient.Proofs.Draft.Reachability
import TypedClient.Proofs.Draft.References
import TypedClient.Proofs.Draft.Remerging
import TypedClient.Proofs.Draft.Resolution
import TypedClient.Proofs.Draft.Schemas
import TypedClient.Proofs.Draft.Server
import TypedClient.Proofs.Draft.Services
import TypedClient.Proofs.Draft.Sources
import TypedClient.Proofs.Draft.Spelling
import TypedClient.Proofs.Draft.Stability
import TypedClient.Proofs.Draft.Structure
import TypedClient.Proofs.Draft.Told
import TypedClient.Proofs.Draft.Traversal
import TypedClient.Proofs.FileSystem
import TypedClient.Proofs.Model.Extensions
import TypedClient.Proofs.Model.Layers
import TypedClient.Proofs.Model.Mirror
import TypedClient.Proofs.Model.Nodes
import TypedClient.Proofs.Model.Shape
import TypedClient.Proofs.Naming.Alphabet
import TypedClient.Proofs.Naming.Binding
import TypedClient.Proofs.Naming.InTurn
import TypedClient.Proofs.Naming.Member
import TypedClient.Proofs.Naming.Namespace
import TypedClient.Proofs.Naming.Word
import TypedClient.Proofs.Number.Layout
import TypedClient.Proofs.Number.Shortest
import TypedClient.Proofs.Operation.MediaType
import TypedClient.Proofs.Operation.Parameters
import TypedClient.Proofs.Operation.Results
import TypedClient.Proofs.Output.Categories
import TypedClient.Proofs.Output.Files
import TypedClient.Proofs.Output.Imports
import TypedClient.Proofs.Output.Index
import TypedClient.Proofs.Output.Outline
import TypedClient.Proofs.Output.Path
import TypedClient.Proofs.Output.RelativePath
import TypedClient.Proofs.Output.Stale
import TypedClient.Proofs.Output.Writing
import TypedClient.Proofs.Source.Fetch
import TypedClient.Proofs.Text.Bytes
import TypedClient.Proofs.Text.Parts
import TypedClient.Proofs.Text.Quoted
import TypedClient.Proofs.Text.Replace
import TypedClient.Proofs.TypeScript.Comment
import TypedClient.Proofs.TypeScript.Documentation
import TypedClient.Proofs.TypeScript.Enclosure
import TypedClient.Proofs.TypeScript.Grammar
import TypedClient.Proofs.TypeScript.Literal
import TypedClient.Proofs.TypeScript.LiteralType
import TypedClient.Proofs.TypeScript.ModelType
import TypedClient.Proofs.TypeScript.Outline
import TypedClient.Proofs.TypeScript.PropertyKey
import TypedClient.Proofs.TypeScript.Rendering
import TypedClient.Proofs.TypeScript.Signature
import TypedClient.Proofs.TypeScript.StringLiteral
import TypedClient.Proofs.TypeScript.TemplateLiteral
import TypedClient.Proofs.TypeScript.Token
import TypedClient.Proofs.TypeScript.TypeText
import TypedClient.Proofs.Unicode.Case
import TypedClient.Source.Address
import TypedClient.Source.Fetch
import TypedClient.Source.Load
import TypedClient.Text.Basic
import TypedClient.Text.Bytes
import TypedClient.Text.Quoted
import TypedClient.Text.Separated
import TypedClient.TypeScript.Code
import TypedClient.TypeScript.Comment
import TypedClient.TypeScript.File
import TypedClient.TypeScript.Literal
import TypedClient.TypeScript.Method
import TypedClient.TypeScript.Request
import TypedClient.TypeScript.Support
import TypedClient.TypeScript.Transport
import TypedClient.TypeScript.TypeText
import TypedClient.Unicode.Blank
import TypedClient.Unicode.Case
import TypedClient.Unicode.Digit
import TypedClient.Unicode.Letter
import TypedClient.Unicode.Printable
import TypedClient.Unicode.Span
import TypedClient.Unicode.Title
import TypedClient.Yaml.Cursor
import TypedClient.Yaml.Datum
import TypedClient.Yaml.Node
import TypedClient.Yaml.Scalar
import TypedClient.Yaml.ScalarText
import TypedClient.Yaml.Scanner
import TypedClient.Yaml.Timestamp
import TypedClient.Yaml.Token
