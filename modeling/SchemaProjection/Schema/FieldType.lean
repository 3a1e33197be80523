import SchemaProjection.Schema.Reference

namespace SchemaProjection

inductive FieldType where
  | boolean
  | string
  | localizedString
  | enum
  | localizedEnum
  | number
  | money
  | date
  | time
  | dateTime
  | reference (kind : FieldReference)
  | set (element : FieldType)
  | unknown
  deriving DecidableEq, Repr

/-- The type of a product attribute. `nested` is a set of attributes laid down by the product type
with the given id. -/
inductive AttributeType where
  | boolean
  | text
  | localizedText
  | enum
  | localizedEnum
  | number
  | money
  | date
  | time
  | dateTime
  | reference (kind : AttributeReference)
  | set (element : AttributeType)
  | nested (productTypeId : String)
  | unknown
  deriving DecidableEq, Repr

end SchemaProjection
