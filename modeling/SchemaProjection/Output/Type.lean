namespace SchemaProjection

inductive Primitive where
  | boolean
  | string
  | int
  | double
  | date
  | time
  | dateTime
  deriving DecidableEq, Repr

structure SdkType where
  module : String
  name : String
  deriving DecidableEq, Repr

namespace SdkType

def path (t : SdkType) : String :=
  t.module ++ "::" ++ t.name

def localizedString : SdkType := ⟨"common", "LocalizedString"⟩
def typedMoney : SdkType := ⟨"common", "TypedMoney"⟩
def reference : SdkType := ⟨"common", "Reference"⟩
def fieldEnumValue : SdkType := ⟨"types", "CustomFieldEnumValue"⟩
def fieldLocalizedEnumValue : SdkType := ⟨"types", "CustomFieldLocalizedEnumValue"⟩
def attributeEnumValue : SdkType := ⟨"product_type", "AttributePlainEnumValue"⟩
def attributeLocalizedEnumValue : SdkType := ⟨"product_type", "AttributeLocalizedEnumValue"⟩
def rawAttribute : SdkType := ⟨"product", "Attribute"⟩
def customFields : SdkType := ⟨"types", "CustomFields"⟩
def typeReference : SdkType := ⟨"types", "TypeReference"⟩

end SdkType

/-- A type but for the question whether its value may be absent. -/
inductive Shape where
  | primitive (p : Primitive)
  | sdk (t : SdkType)
  /-- `nullable` says it of the elements. -/
  | set (nullable : Bool) (element : Shape)
  | generated (className : String)
  | attributeList
  | any
  deriving DecidableEq, Repr

/-- Whether a schema type has been replaced by a more general one, here or in an element. -/
def Shape.isFallback : Shape → Bool
  | .primitive _ => false
  | .sdk t => t == .reference
  | .set _ element => element.isFallback
  | .generated _ => false
  | .attributeList => true
  | .any => true

structure OutputType where
  shape : Shape
  nullable : Bool
  deriving DecidableEq, Repr

namespace OutputType

def setOf (element : OutputType) (nullable : Bool) : OutputType :=
  ⟨.set element.nullable element.shape, nullable⟩

def isFallback (t : OutputType) : Bool :=
  t.shape.isFallback

end OutputType

end SchemaProjection
