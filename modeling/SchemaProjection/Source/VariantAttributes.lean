import SchemaProjection.Source.Comparability
import SchemaProjection.Source.Struct

namespace SchemaProjection.Source

structure AttributesClass where
  productTypeId : String
  struct : OutputClass

/-- The classes, if they can all be written: each is a variant-attributes projection, and no two
of its fields have one identifier. -/
def attributesClasses : List OutputClass → Except GenerationError (List AttributesClass)
  | [] => .ok []
  | c :: cs =>
    match c.projection with
    | .variantAttributes productTypeId =>
      match identifierClash c with
      | some clash => .error (.duplicateField c.name clash)
      | none => (attributesClasses cs).map (⟨productTypeId, c⟩ :: ·)
    | _ => .error (.wrongProjection c.name .variantAttributes)

def variantAttributesTrait : List String :=
  ["/// Typed projection of a product variant's attributes."] ++
  block "pub trait TypedVariantAttributes"
    ["/// Id of the product type the attributes belong to.",
     "fn product_type_id(&self) -> &'static str;"] ++
  [""]

def fromAttributesFunction (attributeType : String) : List String :=
  ["/// Deserializes raw variant attributes into a typed attribute set.",
   "///",
   "/// # Errors",
   "/// Returns an error if an attribute value does not fit its typed field.",
   "pub fn from_attributes<T>(attributes: &[" ++ attributeType ++
      "]) -> Result<T, serde_json::Error>",
   "where",
   "    T: TypedVariantAttributes + serde::de::DeserializeOwned,",
   "\x7b",
   "    let object = attributes",
   "        .iter()",
   "        .map(|attribute| \x7b",
   "            serde_json::to_value(&attribute.value)",
   "                .map(|value| (attribute.name.clone(), value))",
   "        \x7d)",
   "        .collect::<Result<serde_json::Map<_, _>, _>>()?;",
   "    serde_json::from_value(serde_json::Value::Object(object))",
   "\x7d",
   ""]

def attributesLines (comparable : Bool) (c : AttributesClass) (fields : List FieldText) :
    List String :=
  ["/// Typed attributes of product type `" ++ Text.docText c.productTypeId ++ "`."] ++
  structLines c.struct fields comparable ++
  block ("impl TypedVariantAttributes for " ++ c.struct.name)
    (block "fn product_type_id(&self) -> &'static str" [Text.literal c.productTypeId]) ++
  [""]

def anyAttributesEnum (cs : List AttributesClass) : List String :=
  ["/// Any generated variant attributes type.", "#[derive(Debug, Clone)]"] ++
  block "pub enum AnyTypedVariantAttributes"
    (cs.flatMap fun c =>
      ["/// See [`" ++ c.struct.name ++ "`].",
       c.struct.name ++ "(" ++ c.struct.name ++ "),"]) ++
  [""]

def fromAttributesArm (c : AttributesClass) : String :=
  Text.literal c.productTypeId ++ " => from_attributes(attributes).map(|typed| Some(Self::" ++
    c.struct.name ++ "(typed))),"

def anyAttributesImpl (attributeType : String) (cs : List AttributesClass) : List String :=
  block "impl AnyTypedVariantAttributes"
    (["/// Deserializes raw attributes by product type id.",
      "///",
      "/// Returns `None` for a product type without a generated type.",
      "///",
      "/// # Errors",
      "/// Returns an error if an attribute value does not fit its typed field.",
      "pub fn from_attributes(",
      "    product_type_id: &str,",
      "    attributes: &[" ++ attributeType ++ "],"] ++
     block ") -> Result<Option<Self>, serde_json::Error>"
      (block "match product_type_id" (cs.map fromAttributesArm ++ ["_ => Ok(None),"])) ++
     ["", "/// Returns the wrapped attributes as a trait object.", "#[must_use]"] ++
     block "pub fn as_typed(&self) -> &dyn TypedVariantAttributes"
      (block "match self" (cs.map fun c => "Self::" ++ c.struct.name ++ "(typed) => typed,")))

def variantAttributesLines (sdkCrate : String) (cs : List AttributesClass) :
    Importing (List String) := do
  let attributeType ← sdkText sdkCrate .rawAttribute
  let incomparable := withoutEquality (cs.map (·.struct))
  let classes ← cs.mapM fun c => do
    return attributesLines (!incomparable.contains c.struct.name) c
      (← c.struct.fields.mapM (fieldText sdkCrate))
  return variantAttributesTrait ++ fromAttributesFunction attributeType ++ classes.flatten ++
    anyAttributesEnum cs ++ anyAttributesImpl attributeType cs

end SchemaProjection.Source
