import SchemaProjection.Source.Struct

namespace SchemaProjection.Source

structure CarrierClass where
  name : String
  typeKey : String
  module : String
  record : OutputClass

/-- The classes, if they can all be written: each is a custom-fields projection, no two have one
module, and no two fields of a record have one identifier. `modules` gives the names of the
classes before, by their modules. -/
def carrierClasses (modules : List (String × String)) :
    List OutputClass → Except GenerationError (List CarrierClass)
  | [] => .ok []
  | c :: cs =>
    match c.projection with
    | .customFields typeKey =>
      let module := Identifier.ofName c.name
      match modules.lookup module with
      | some first => .error (.duplicateModule ⟨module, first, c.name⟩)
      | none =>
        match identifierClash c.typedFields with
        | some clash => .error (.duplicateField c.typedFields.name clash)
        | none =>
          (carrierClasses ((module, c.name) :: modules) cs).map
            (⟨c.name, typeKey, module, c.typedFields⟩ :: ·)
    | _ => .error (.wrongProjection c.name .customFields)

def customFieldsTrait (typeReference : String) : List String :=
  ["/// Typed projection of a custom-fields carrier."] ++
  block "pub trait TypedCustomFields"
    ["/// Key of the custom-field type the fields belong to.",
     "const TYPE_KEY: &'static str;",
     "",
     "/// Returns the reference to the custom-field type.",
     "fn type_reference(&self) -> &" ++ typeReference ++ ";"] ++
  [""]

def carrierLines (typeReference customFields : String) (c : CarrierClass)
    (fields : List FieldText) : List String :=
  let key := Text.docText c.typeKey
  let fieldsPath := c.module ++ "::" ++ c.record.name
  ["/// Typed custom fields of type `" ++ key ++ "`.",
   "///",
   "/// Keeps the raw carrier it was read from.",
   "#[derive(Debug, Clone)]"] ++
  block ("pub struct " ++ c.name)
    ["/// Reference to the custom-field type.",
     "pub type_: " ++ typeReference ++ ",",
     "/// Typed field values.",
     "pub fields: " ++ fieldsPath ++ ",",
     "raw: " ++ customFields ++ ","] ++
  [""] ++
  block ("impl " ++ c.name)
    (constructorLines c.name
      [("type_", typeReference), ("fields", fieldsPath), ("raw", customFields)] ++
     ["", "/// Returns the raw custom fields.", "#[must_use]"] ++
     block ("pub const fn raw(&self) -> &" ++ customFields) ["&self.raw"] ++
     ["", "/// Consumes the projection, returning the raw custom fields.", "#[must_use]"] ++
     block ("pub fn into_raw(self) -> " ++ customFields) ["self.raw"]) ++
  [""] ++
  block ("impl TypedCustomFields for " ++ c.name)
    (["const TYPE_KEY: &'static str = " ++ Text.literal c.typeKey ++ ";", ""] ++
     block ("fn type_reference(&self) -> &" ++ typeReference) ["&self.type_"]) ++
  [""] ++
  block ("impl AsRef<" ++ customFields ++ "> for " ++ c.name)
    (block ("fn as_ref(&self) -> &" ++ customFields) ["&self.raw"]) ++
  [""] ++
  block ("impl From<" ++ c.name ++ "> for " ++ customFields)
    (block ("fn from(typed: " ++ c.name ++ ") -> Self") ["typed.raw"]) ++
  [""] ++
  block ("impl TryFrom<&" ++ customFields ++ "> for " ++ c.name)
    (["type Error = serde_json::Error;", ""] ++
     block ("fn try_from(raw: &" ++ customFields ++ ") -> Result<Self, Self::Error>")
      (["let value = serde_json::to_value(raw)?;",
        "let fields = value",
        "    .get(\"fields\")",
        "    .cloned()",
        "    .unwrap_or_else(|| serde_json::Value::Object(serde_json::Map::new()));",
        "Ok(Self \x7b"] ++
       indented
        ["type_: serde_json::from_value(value[\"type\"].clone())?,",
         "fields: serde_json::from_value(fields)?,",
         "raw: raw.clone(),"] ++
       ["\x7d)"])) ++
  [""] ++
  ["/// Nested record of [`" ++ c.name ++ "`]."] ++
  block ("pub mod " ++ c.module)
    (["use super::*;", "", "/// Field values of type `" ++ key ++ "`."] ++
     structLines c.record fields true) ++
  [""]

def customFieldsLines (sdkCrate : String) (cs : List CarrierClass) : Importing (List String) := do
  let typeReference ← sdkText sdkCrate .typeReference
  let customFields ← sdkText sdkCrate .customFields
  let classes ← cs.mapM fun c => do
    return carrierLines typeReference customFields c (← c.record.fields.mapM (fieldText sdkCrate))
  return customFieldsTrait typeReference ++ classes.flatten

end SchemaProjection.Source
