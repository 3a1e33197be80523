import SchemaProjection.KeyMap
import SchemaProjection.Schema.FieldType

namespace SchemaProjection

abbrev Localized := KeyMap String

structure Definition (τ : Type) where
  name : String
  type : τ
  required : Bool := false
  label : Localized := ∅
  deriving DecidableEq

structure CustomFieldType where
  id : String
  key : String
  name : Localized := ∅
  resourceTypeIds : List String := []
  fields : List (Definition FieldType) := []
  deriving DecidableEq

structure ProductType where
  id : String
  key : Option String := none
  name : String
  description : String := ""
  attributes : List (Definition AttributeType) := []
  deriving DecidableEq

inductive EntityKind where
  | customFieldType
  | productType
  deriving DecidableEq, Repr

def EntityKind.label : EntityKind → String
  | .customFieldType => "type"
  | .productType => "product type"

/-- What an entity is looked up and reported by. `seed` is the text that its class name is derived
from. -/
structure Identity where
  kind : EntityKind
  id : String
  key : String
  seed : String
  deriving DecidableEq

def CustomFieldType.identity (t : CustomFieldType) : Identity :=
  ⟨.customFieldType, t.id, t.key, t.key⟩

def ProductType.identity (p : ProductType) : Identity :=
  ⟨.productType, p.id, p.key.getD p.name, p.name⟩

structure Snapshot where
  types : List CustomFieldType := []
  productTypes : List ProductType := []
  deriving DecidableEq

def Snapshot.isEmpty (s : Snapshot) : Bool :=
  s.types.isEmpty && s.productTypes.isEmpty

end SchemaProjection
