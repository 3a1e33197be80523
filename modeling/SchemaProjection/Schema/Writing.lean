import SchemaProjection.Json.Value
import SchemaProjection.Schema.Entity

namespace SchemaProjection

open Json

def FieldType.toJson : FieldType → Json
  | .boolean => .object [("name", .string "Boolean")]
  | .string => .object [("name", .string "String")]
  | .localizedString => .object [("name", .string "LocalizedString")]
  | .enum => .object [("name", .string "Enum")]
  | .localizedEnum => .object [("name", .string "LocalizedEnum")]
  | .number => .object [("name", .string "Number")]
  | .money => .object [("name", .string "Money")]
  | .date => .object [("name", .string "Date")]
  | .time => .object [("name", .string "Time")]
  | .dateTime => .object [("name", .string "DateTime")]
  | .reference kind =>
    .object [("name", .string "Reference"), ("referenceTypeId", .string kind.name)]
  | .set element => .object [("name", .string "Set"), ("elementType", element.toJson)]
  | .unknown => .object [("name", .string "Unknown")]

def AttributeType.toJson : AttributeType → Json
  | .boolean => .object [("name", .string "boolean")]
  | .text => .object [("name", .string "text")]
  | .localizedText => .object [("name", .string "ltext")]
  | .enum => .object [("name", .string "enum")]
  | .localizedEnum => .object [("name", .string "lenum")]
  | .number => .object [("name", .string "number")]
  | .money => .object [("name", .string "money")]
  | .date => .object [("name", .string "date")]
  | .time => .object [("name", .string "time")]
  | .dateTime => .object [("name", .string "datetime")]
  | .reference kind =>
    .object [("name", .string "reference"), ("referenceTypeId", .string kind.name)]
  | .set element => .object [("name", .string "set"), ("elementType", element.toJson)]
  | .nested id =>
    .object [("name", .string "nested"), ("typeReference", .object [("id", .string id)])]
  | .unknown => .object [("name", .string "unknown")]

def localizedToJson (m : Localized) : Json :=
  .object (m.entries.map fun e => (e.1, .string e.2))

def Definition.toJson {τ : Type} (typeToJson : τ → Json) (flag : String) (d : Definition τ) :
    Json :=
  .object [("name", .string d.name), ("type", typeToJson d.type), (flag, .bool d.required),
    ("label", localizedToJson d.label)]

def CustomFieldType.toJson (t : CustomFieldType) : Json :=
  .object [("id", .string t.id), ("key", .string t.key), ("name", localizedToJson t.name),
    ("resourceTypeIds", .array (t.resourceTypeIds.map .string)),
    ("fieldDefinitions", .array (t.fields.map (Definition.toJson FieldType.toJson "required")))]

def ProductType.toJson (p : ProductType) : Json :=
  .object [("id", .string p.id), ("key", p.key.elim .null .string), ("name", .string p.name),
    ("description", .string p.description),
    ("attributes",
      .array (p.attributes.map (Definition.toJson AttributeType.toJson "isRequired")))]

def Snapshot.toJson (s : Snapshot) : Json :=
  .object [("types", .array (s.types.map CustomFieldType.toJson)),
    ("productTypes", .array (s.productTypes.map ProductType.toJson))]

end SchemaProjection
