import SchemaProjection.Error
import SchemaProjection.Schema.Index

namespace SchemaProjection

/-- What is checked of an entity: its identity and the raw names of its fields. -/
structure Outline where
  identity : Identity
  fieldNames : List String

def CustomFieldType.outline (t : CustomFieldType) : Outline :=
  ⟨t.identity, t.fields.map (·.name)⟩

def ProductType.outline (p : ProductType) : Outline :=
  ⟨p.identity, p.attributes.map (·.name)⟩

namespace Outline

def checkFields (entity : Identity) (seen : List String) : List String → Except SchemaError Unit
  | [] => .ok ()
  | name :: names =>
    if name = "" then .error (.emptyName entity.kind entity.key .field)
    else if seen.contains name then .error (.duplicateField entity.kind entity.key name)
    else checkFields entity (name :: seen) names

/-- Checks the entities of one kind. Their keys may repeat unless `uniqueKeys` is set. -/
def check (uniqueKeys : Bool) (ids keys : List String) : List Outline → Except SchemaError Unit
  | [] => .ok ()
  | o :: os => do
    let e := o.identity
    if e.id = "" then throw (.emptyName e.kind e.key .id)
    if e.key = "" then throw (.emptyName e.kind e.id .key)
    if ids.contains e.id then throw (.duplicateEntity e.kind e.id)
    if uniqueKeys && keys.contains e.key then throw (.duplicateEntity e.kind e.key)
    checkFields e [] o.fieldNames
    check uniqueKeys (e.id :: ids) (e.key :: keys) os

end Outline

def Schema.validate (s : Schema) : Except SchemaError Unit := do
  Outline.check true [] [] (s.types.map CustomFieldType.outline)
  Outline.check false [] [] (s.productTypes.map ProductType.outline)

end SchemaProjection
