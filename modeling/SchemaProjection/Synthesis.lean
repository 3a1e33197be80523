import SchemaProjection.Mapping
import SchemaProjection.Output.Class

namespace SchemaProjection

def requireNone (clash : Option Clash) (error : Clash → GenerationError) :
    Except GenerationError Unit :=
  match clash with
  | some c => .error (error c)
  | none => .ok ()

def checkFieldNames (className : String) (fields : List OutputField) :
    Except GenerationError Unit :=
  requireNone (Clash.find? [] (fields.map fun f => (f.name, f.raw))) (.duplicateField className)

def checkConstantNames (className : String) (constants : List OutputConstant) :
    Except GenerationError Unit :=
  requireNone (Clash.find? [] (constants.map fun k => (k.name, k.value)))
    (.duplicateConstant className)

namespace CustomFieldType

def outputField (c : Configuration) (t : CustomFieldType) (d : Definition FieldType) :
    Except GenerationError OutputField := do
  return { name := ← c.fieldName .customFields t.identity d.name, type := d.type.output,
           raw := d.name }

def record (fields : List OutputField) : OutputClass where
  name := "Fields"
  fields
  equality := .forFieldCount fields.length
  constants := []
  projection := .record
  nested := none

def synthesize (c : Configuration) (t : CustomFieldType) : Except GenerationError OutputClass := do
  let name ← c.className .customFields t.identity
  let fields ← t.fields.mapM (t.outputField c)
  checkFieldNames name fields
  return {
    name
    fields := []
    equality := .marker
    constants := []
    projection := .customFields t.key
    nested := some (record fields) }

end CustomFieldType

namespace ProductType

def outputField (s : Schema) (c : Configuration) (p : ProductType) (d : Definition AttributeType) :
    Except GenerationError (OutputField × OutputConstant) := do
  let required := c.isRequired p.identity d.name d.required
  let name ← c.fieldName .variantAttributes p.identity d.name
  let type ← d.type.output s c required
  let constant ← c.constantName .variantAttributes p.identity d.name
  return (⟨name, type, d.name⟩, ⟨constant, d.name⟩)

def synthesize (s : Schema) (c : Configuration) (p : ProductType) :
    Except GenerationError OutputClass := do
  let name ← c.className .variantAttributes p.identity
  let members ← p.attributes.mapM (p.outputField s c)
  let fields := members.map (·.1)
  let constants := members.map (·.2)
  checkFieldNames name fields
  checkConstantNames name constants
  return {
    name
    fields
    equality := .forFieldCount fields.length
    constants
    projection := .variantAttributes p.id
    nested := none }

end ProductType

end SchemaProjection
