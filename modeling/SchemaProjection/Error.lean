import SchemaProjection.Clash
import SchemaProjection.Json.Number
import SchemaProjection.Schema.Entity

namespace SchemaProjection

inductive FileError where
  | notFound
  | exists
  | notDirectory
  | isDirectory
  | nameTooLong
  | nulInName
  | invalidEncoding
  deriving DecidableEq, Repr

def FileError.message : FileError → String
  | .notFound => "No such file or directory (os error 2)"
  | .exists => "File exists (os error 17)"
  | .notDirectory => "Not a directory (os error 20)"
  | .isDirectory => "Is a directory (os error 21)"
  | .nameTooLong => "File name too long (os error 36)"
  | .nulInName => "file name contained an unexpected NUL byte"
  | .invalidEncoding => "stream did not contain valid UTF-8"

inductive ParseError where
  | text (fault : Json.Fault)
  | shape
  | notAnObject
  | file (cause : FileError)
  deriving DecidableEq, Repr

def ParseError.message : ParseError → String
  | .text .unfinished => "JSON parsing error: the text ends too early"
  | .text .malformed => "JSON parsing error: the text is malformed"
  | .shape => "JSON parsing error: the document has a wrong shape"
  | .notAnObject => "invalid schema structure: schema snapshot must be a JSON object"
  | .file cause => "IO error: " ++ cause.message

inductive RequiredName where
  | id
  | key
  | field
  deriving DecidableEq, Repr

def RequiredName.label : RequiredName → String
  | .id => "id"
  | .key => "key"
  | .field => "field name"

inductive SchemaError where
  | duplicateEntity (kind : EntityKind) (id : String)
  | duplicateField (kind : EntityKind) (entity field : String)
  | emptyName (kind : EntityKind) (entity : String) (what : RequiredName)
  deriving DecidableEq, Repr

def SchemaError.message : SchemaError → String
  | .duplicateEntity kind id => s!"duplicate {kind.label} '{id}'"
  | .duplicateField kind entity field => s!"duplicate field '{field}' in {kind.label} '{entity}'"
  | .emptyName kind entity what => s!"empty {what.label} in {kind.label} '{entity}'"

/-- The two parts of a schema that classes are generated for. -/
inductive Domain where
  | customFields
  | variantAttributes
  deriving DecidableEq, Repr

namespace Domain

def label : Domain → String
  | customFields => "custom field type"
  | variantAttributes => "product type"

def module : Domain → String
  | customFields => "custom_fields"
  | variantAttributes => "product_variant_attributes"

end Domain

inductive NameRole where
  | className
  | fieldName
  | constantName
  deriving DecidableEq, Repr

def NameRole.label : NameRole → String
  | .className => "class name"
  | .fieldName => "field name"
  | .constantName => "constant name"

inductive GenerationError where
  | parse (cause : ParseError)
  | schema (cause : SchemaError)
  | configuration
  | file (cause : FileError)
  | emptyCollection (domain : Domain)
  | invalidIdentifier (role : NameRole) (identifier entity : String)
  | duplicateField (className : String) (clash : Clash)
  | duplicateConstant (className : String) (clash : Clash)
  | duplicateClass (clash : Clash)
  | duplicateModule (clash : Clash)
  | wrongProjection (className : String) (domain : Domain)
  deriving DecidableEq, Repr

def GenerationError.message : GenerationError → String
  | .parse cause => "schema parse error: " ++ cause.message
  | .schema cause => "schema error: " ++ cause.message
  | .configuration => "configuration error"
  | .file cause => "IO error: " ++ cause.message
  | .emptyCollection domain => s!"no {domain.label} definitions to generate"
  | .invalidIdentifier role identifier entity =>
    s!"invalid {role.label} '{identifier}' derived for '{entity}'"
  | .duplicateField className c =>
    s!"fields '{c.first}' and '{c.second}' of '{className}' both map to '{c.name}'"
  | .duplicateConstant className c =>
    s!"attributes '{c.first}' and '{c.second}' of '{className}' both map to constant '{c.name}'"
  | .duplicateClass c => s!"'{c.first}' and '{c.second}' both generate class '{c.name}'"
  | .duplicateModule c =>
    s!"generation error: classes '{c.first}' and '{c.second}' both render module '{c.name}'"
  | .wrongProjection className .customFields =>
    s!"generation error: class '{className}' is not a custom fields projection"
  | .wrongProjection className .variantAttributes =>
    s!"generation error: class '{className}' is not a variant attributes projection"

end SchemaProjection
