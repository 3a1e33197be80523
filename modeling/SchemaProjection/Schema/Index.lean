import SchemaProjection.Schema.Entity

namespace SchemaProjection

namespace ProductType

/-- Where the first product type with each id stands. `start` is the position of the first of the
given ones, and `known` holds the positions before it. -/
def positionsFrom (start : Nat) (known : KeyMap Nat) : List ProductType → KeyMap Nat
  | [] => known
  | p :: ps => positionsFrom (start + 1) (known.insertNew p.id start) ps

def positions (ps : List ProductType) : KeyMap Nat :=
  positionsFrom 0 ∅ ps

end ProductType

structure Schema where
  types : List CustomFieldType
  productTypes : List ProductType
  positions : KeyMap Nat
  indexed : positions = ProductType.positions productTypes

namespace Schema

def ofCollections (types : List CustomFieldType) (productTypes : List ProductType) : Schema :=
  ⟨types, productTypes, ProductType.positions productTypes, rfl⟩

def ofSnapshot (s : Snapshot) : Schema :=
  ofCollections s.types s.productTypes

/-- The product type with the id; of several the first. -/
def productType? (s : Schema) (id : String) : Option ProductType :=
  (s.positions.get? id).bind (s.productTypes[·]?)

end Schema

end SchemaProjection
