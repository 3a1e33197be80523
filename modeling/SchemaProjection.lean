import SchemaProjection.Files
import SchemaProjection.Schema.Writing
import SchemaProjection.Proofs.Outcome
import SchemaProjection.Proofs.Schema.FirstMatch
import SchemaProjection.Proofs.Clash
import SchemaProjection.Proofs.Mapping
import SchemaProjection.Proofs.Naming
import SchemaProjection.Proofs.Assembly
import SchemaProjection.Proofs.ClassLinks
import SchemaProjection.Proofs.FilePath
import SchemaProjection.Proofs.Generation
import SchemaProjection.Proofs.Placement
import SchemaProjection.Proofs.Identifier
import SchemaProjection.Proofs.Source.Classes
import SchemaProjection.Proofs.FieldIdentifiers
import SchemaProjection.Proofs.Source.Imports
import SchemaProjection.Proofs.Source.ImportTable
import SchemaProjection.Proofs.TypeNames
import SchemaProjection.Proofs.Text.PascalCase
import SchemaProjection.Proofs.ModuleNames
import SchemaProjection.Proofs.Source.Comparability
import SchemaProjection.Proofs.Source.Derives
import SchemaProjection.Proofs.Text.Literal
import SchemaProjection.Proofs.Source.RawTexts
import SchemaProjection.Proofs.RawTexts
import SchemaProjection.Proofs.Schema.Validation
import SchemaProjection.Proofs.UniqueNames
import SchemaProjection.Proofs.Stages
import SchemaProjection.Proofs.Removal
import SchemaProjection.Proofs.InputOrder
import SchemaProjection.Proofs.Schema.RoundTrip
import SchemaProjection.Proofs.Json.Value
import SchemaProjection.Proofs.Json.Reader
import SchemaProjection.Proofs.Schema.TypeFormat
import SchemaProjection.Proofs.AttributeClass
import SchemaProjection.Proofs.Log
import SchemaProjection.Proofs.Independence
import SchemaProjection.Proofs.Json.SameValue
import SchemaProjection.Proofs.Schema.Sections
import SchemaProjection.Proofs.Schema.Faults
import SchemaProjection.Proofs.AttributeLevels
import SchemaProjection.Proofs.CustomFieldsClass
import SchemaProjection.Proofs.Degradation
import SchemaProjection.Proofs.FirstOffender
import SchemaProjection.Proofs.Source.Faults
import SchemaProjection.Proofs.Source.Lines
import SchemaProjection.Proofs.Text.ByteOrder
import SchemaProjection.Proofs.Source.UseLines
import SchemaProjection.Proofs.AttributeTypeNames
import SchemaProjection.Proofs.Source.TypeTexts
import SchemaProjection.Proofs.Source.Header
import SchemaProjection.Proofs.Schema.TypeNodes
import SchemaProjection.Proofs.Schema.Pages
import SchemaProjection.Proofs.Source.StructTexts
import SchemaProjection.Proofs.Constructors
import SchemaProjection.Proofs.Configuration.Slots
import SchemaProjection.Proofs.ValidNames
import SchemaProjection.Proofs.Configuration.Locality
import SchemaProjection.Proofs.Text.Underscores
import SchemaProjection.Proofs.LegalIdentifiers
import SchemaProjection.Proofs.Toml.UniqueKeys
import SchemaProjection.Proofs.Configuration.Reading
import SchemaProjection.Proofs.FileTree
import SchemaProjection.Proofs.FileWrites
import SchemaProjection.Proofs.Text.Runs
import SchemaProjection.Proofs.DefaultClassNames
