import SchemaProjection.Error
import SchemaProjection.Output.Type

namespace SchemaProjection

structure OutputField where
  name : String
  type : OutputType
  raw : String
  deriving DecidableEq

structure OutputConstant where
  name : String
  value : String
  deriving DecidableEq

/-- A marker has no fields to compare. -/
inductive Equality where
  | structural
  | marker
  deriving DecidableEq, Repr

def Equality.forFieldCount : Nat → Equality
  | 0 => marker
  | _ => structural

inductive Projection where
  | customFields (typeKey : String)
  | variantAttributes (productTypeId : String)
  | record
  deriving DecidableEq, Repr

def Projection.capability : Projection → Option String
  | .customFields _ => some "TypedCustomFields"
  | .variantAttributes _ => some "TypedVariantAttributes"
  | .record => none

structure OutputClass where
  name : String
  fields : List OutputField
  equality : Equality
  constants : List OutputConstant
  projection : Projection
  nested : Option OutputClass

namespace OutputClass

/-- The class that has the typed fields: the nested one if there is one. -/
def typedFields (c : OutputClass) : OutputClass :=
  c.nested.getD c

end OutputClass

structure OutputUnit where
  domain : Domain
  package : List String
  classes : List OutputClass

def OutputUnit.fallbackFields (u : OutputUnit) : List (OutputClass × OutputField) :=
  u.classes.flatMap fun c => (c.typedFields.fields.filter (·.type.isFallback)).map (c, ·)

end SchemaProjection
