import Marshal.Main
import Marshal.Value.Session
import Marshal.Proofs.Declaration.Layout
import Marshal.Proofs.Declaration.Meaning
import Marshal.Proofs.Assoc
import Marshal.Proofs.Closure.GenerationSet
import Marshal.Proofs.Catalog.References
import Marshal.Proofs.Catalog.Collection
import Marshal.Proofs.Code.Mention
import Marshal.Proofs.Conversion.Mention
import Marshal.Proofs.Generated.Globals
import Marshal.Proofs.Declaration.References
import Marshal.Proofs.Generated.Names
import Marshal.Proofs.Naming.ConverterName
import Marshal.Proofs.Code.Margin
import Marshal.Proofs.Generated.Exports
import Marshal.Proofs.Generated.Converters
import Marshal.Proofs.Code.Free
import Marshal.Proofs.Conversion.Hygiene
import Marshal.Proofs.Declaration.Boundary
import Marshal.Proofs.Declaration.Settling
import Marshal.Proofs.Declaration.Viability
import Marshal.Proofs.Declaration.Stopping
import Marshal.Proofs.Declaration.Completion
import Marshal.Proofs.Declaration.Refusal
import Marshal.Proofs.Converter.Keys
import Marshal.Proofs.Converter.ExternalForm
import Marshal.Proofs.Generated.Document
import Marshal.Proofs.Generated.Profiles
import Marshal.Proofs.Naming.Mangling
import Marshal.Proofs.Value.DataClass
import Marshal.Proofs.Closure.Order
import Marshal.Proofs.Declaration.Blocks
import Marshal.Proofs.Declaration.Visible
import Marshal.Proofs.Json.Printing
import Marshal.Proofs.Catalog.Document
import Marshal.Proofs.Source
import Marshal.Proofs.Closure.Members
import Marshal.Proofs.Text.Plain
import Marshal.Proofs.Json.Strings
import Marshal.Proofs.Naming.Alike
import Marshal.Proofs.Generated.Surface
import Marshal.Proofs.Generated.Clashes
import Marshal.Proofs.Command.Directory
import Marshal.Proofs.Command.Generate
import Marshal.Proofs.Code.Evaluation
import Marshal.Proofs.Text.Numeral
import Marshal.Proofs.Value.Collection
import Marshal.Proofs.Conversion.Transfer
import Marshal.Proofs.Conversion.Inhabitant
import Marshal.Proofs.Conversion.Return
import Marshal.Proofs.Conversion.Itemwise
import Marshal.Proofs.Conversion.RoundTrip
import Marshal.Proofs.App.Offering
import Marshal.Proofs.Naming.Identifier
import Marshal.Proofs.App.ClassBody
import Marshal.Proofs.Code.Control
import Marshal.Proofs.Converter.Dispatch
import Marshal.Proofs.Naming.Path
import Marshal.Proofs.Declaration.Names
import Marshal.Proofs.Code.Called
import Marshal.Proofs.Conversion.Forms
import Marshal.Proofs.Conversion.Called
import Marshal.Proofs.Converter.Called
import Marshal.Proofs.Generated.Erasure
import Marshal.Proofs.Code.Part
import Marshal.Proofs.Code.Display
import Marshal.Proofs.Code.Running
import Marshal.Proofs.Conversion.Part
import Marshal.Proofs.Converter.Part
import Marshal.Proofs.Converter.Discriminant
import Marshal.Proofs.Naming.Spelling
import Marshal.Proofs.Converter.Temporaries
import Marshal.Proofs.Generated.Parameters
import Marshal.Proofs.Conversion.Arguments
import Marshal.Proofs.App.Part
import Marshal.Proofs.Generated.Arguments
import Marshal.Proofs.Closure.Discovery
import Marshal.Proofs.Code.Uniform
import Marshal.Proofs.Conversion.Uniform
import Marshal.Proofs.Generated.Scope
import Marshal.Proofs.Declaration.Offences
import Marshal.Proofs.Declaration.WellFormed
import Marshal.Proofs.Naming.Usable
import Marshal.Proofs.Declaration.Named
import Marshal.Proofs.Conversion.Writing
import Marshal.Proofs.Converter.Writing
import Marshal.Proofs.App.Writing
import Marshal.Proofs.Generated.Identifiers
import Marshal.Proofs.Generated.Imports
import Marshal.Proofs.Generated.Declarations
import Marshal.Proofs.Matching
import Marshal.Proofs.Text.Literal
import Marshal.Proofs.Text.Sequence
import Marshal.Proofs.Converter.Literals
import Marshal.Proofs.Value.Tuple
import Marshal.Proofs.Value.Equality
import Marshal.Proofs.Value.Filing
import Marshal.Proofs.Value.Keys
import Marshal.Proofs.Value.Laws
import Marshal.Proofs.Value.History
import Marshal.Proofs.Conversion.Identity
