import SchemaProjection.Run
import SchemaProjection.Synthesis

namespace SchemaProjection

/-- Synthesizes the classes of the entities in turn. `owners` gives the keys of the entities
before, by the names of their classes. -/
def assembleClasses {ε : Type} (key : ε → String) (synthesize : ε → Run OutputClass)
    (owners : List (String × String)) : List ε → Run (List OutputClass)
  | [] => pure []
  | e :: es => do
    let c ← synthesize e
    match owners.lookup c.name with
    | some first => .fail (.duplicateClass ⟨c.name, first, key e⟩)
    | none => return c :: (← assembleClasses key synthesize ((c.name, key e) :: owners) es)

def assemble {ε : Type} (config : Configuration) (domain : Domain) (key : ε → String)
    (synthesize : ε → Run OutputClass) (entities : List ε) : Run OutputUnit := do
  if entities.isEmpty then
    .fail (.emptyCollection domain)
  else
    let classes ← assembleClasses key synthesize [] entities
    .log (.assembled domain classes.length)
    return ⟨domain, config.packageSegments, classes⟩

def CustomFieldType.run (c : Configuration) (t : CustomFieldType) : Run OutputClass := do
  let cls ← .ofExcept (t.synthesize c)
  .log (.synthesizedCustomFields t.key cls.name cls.typedFields.fields.length)
  return cls

def ProductType.run (s : Schema) (c : Configuration) (p : ProductType) : Run OutputClass := do
  let cls ← .ofExcept (p.synthesize s c)
  .log (.synthesizedVariantAttributes p.id cls.name cls.typedFields.fields.length)
  return cls

def assembleCustomFields (c : Configuration) (ts : List CustomFieldType) : Run OutputUnit :=
  assemble c .customFields (·.identity.key) (·.run c) ts

def assembleVariantAttributes (s : Schema) (c : Configuration) (ps : List ProductType) :
    Run OutputUnit :=
  assemble c .variantAttributes (·.identity.key) (·.run s c) ps

def OutputUnit.logFallbacks (u : OutputUnit) : Run Unit :=
  u.fallbackFields.forM fun (c, f) => .log (.degraded u.domain c.name f.raw)

def Schema.customFieldsUnit (s : Schema) (c : Configuration) : Run OutputUnit := do
  let u ← assembleCustomFields c s.types
  u.logFallbacks
  return u

def Schema.variantAttributesUnit (s : Schema) (c : Configuration) : Run OutputUnit := do
  let u ← assembleVariantAttributes s c s.productTypes
  u.logFallbacks
  return u

end SchemaProjection
