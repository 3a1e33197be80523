import SchemaProjection.Error
import SchemaProjection.Json.Reader
import SchemaProjection.Schema.TypeFormat

namespace SchemaProjection

namespace Json

def string? : Json → Option String
  | .string s => some s
  | _ => none

def bool? : Json → Option Bool
  | .bool b => some b
  | _ => none

def list? {α : Type} (item? : Json → Option α) : Json → Option (List α)
  | .array items => items.mapM item?
  | _ => none

def localized? : Json → Option Localized
  | .object members => (members.mapM fun (e : String × Json) => e.2.string?.map (e.1, ·)).map
    KeyMap.ofList
  | _ => none

/-- A member that may be missing, but not `null`. -/
def orDefault {α : Type} (default : α) (read? : Json → Option α) : Option Json → Option α
  | none => some default
  | some v => read? v

/-- A key may also be `null`, which is the same as missing. -/
def key? : Option Json → Option (Option String)
  | none => some none
  | some .null => some none
  | some v => v.string?.map some

/-- One collection: an array, or a page of a query with its array in `results`. -/
def section? {α : Type} (item? : Json → Option α) : Json → Option (List α)
  | .object members => (uniqueMember? members "results").bind (list? item?)
  | v => list? item? v

end Json

open Json

def Definition.ofJson? {τ : Type} (fmt : TypeFormat τ) (flag : String) (j : Json) :
    Option (Definition τ) := do
  match ← j.slots? ["name", "type", flag, "label"] with
  | [name, type, required, label] =>
    return {
      name := ← name.bind string?
      type := ← type.bind (fmt.decode? true)
      required := ← orDefault false bool? required
      label := ← orDefault ∅ localized? label }
  | _ => none

def CustomFieldType.ofJson? (j : Json) : Option CustomFieldType := do
  match ← j.slots? ["id", "key", "name", "resourceTypeIds", "fieldDefinitions"] with
  | [id, key, name, resourceTypeIds, fields] =>
    return {
      id := ← id.bind string?
      key := ← key.bind string?
      name := ← orDefault ∅ localized? name
      resourceTypeIds := ← orDefault [] (list? string?) resourceTypeIds
      fields := ← orDefault [] (list? (Definition.ofJson? FieldType.format "required")) fields }
  | _ => none

def ProductType.ofJson? (j : Json) : Option ProductType := do
  match ← j.slots? ["id", "key", "name", "description", "attributes"] with
  | [id, key, name, description, attributes] =>
    return {
      id := ← id.bind string?
      key := ← key? key
      name := ← name.bind string?
      description := ← orDefault "" string? description
      attributes :=
        ← orDefault [] (list? (Definition.ofJson? AttributeType.format "isRequired")) attributes }
  | _ => none

/-- A missing section is empty. Of repeated members the last counts, at every level. -/
def Snapshot.ofJson (j : Json) : Except ParseError Snapshot :=
  match j.lastWins with
  | .object members =>
    match orDefault [] (section? CustomFieldType.ofJson?) (members.lookup "types"),
        orDefault [] (section? ProductType.ofJson?) (members.lookup "productTypes") with
    | some types, some productTypes => .ok ⟨types, productTypes⟩
    | _, _ => .error .shape
  | _ => .error .notAnObject

/-- Reads a text as a JSON value, and the value by its shape. What follows the value in the text is
looked at last. -/
def parseWith {α : Type} (read? : Json → Option α) (text : String) : Except ParseError α := do
  let (v, rest) ← (Json.readValue text).mapError .text
  match read? v with
  | none => throw .shape
  | some a =>
    (checkEnd rest).mapError .text
    return a

def Snapshot.parse (text : String) : Except ParseError Snapshot :=
  match Json.read text with
  | .error fault => .error (.text fault)
  | .ok j => Snapshot.ofJson j

def CustomFieldType.parseAll (text : String) : Except ParseError (List CustomFieldType) :=
  parseWith (section? CustomFieldType.ofJson?) text

def ProductType.parseAll (text : String) : Except ParseError (List ProductType) :=
  parseWith (section? ProductType.ofJson?) text

/-- Whether a type cannot have the token where the reader stands: a tag that is no text, or the name
of a second tag. -/
def refusesTag : Json.Expecting → Json.Token → Bool
  | .itemOrEnd [], t => isNoText t
  | .value [.object _ name], t => name == "name" && isNoText t
  | .name members [], .text name => name == "name" && members.any (·.1 == "name")
  | _, _ => false
where
  isNoText : Json.Token → Bool
    | .scalar _ => true
    | .openArray => true
    | .openObject => true
    | _ => false

/-- Whether reading a type comes to such a token before any fault of the text. -/
def stopsAtTag : Json.Expecting → List Json.Token → Bool
  | .separator _ [], _ => false
  | _, [] => false
  | e, t :: ts =>
    refusesTag e t ||
      match e.next t with
      | .ok e => stopsAtTag e ts
      | .error _ => false

/-- Reads a text as a type. Its tag is looked at as soon as it is met, the rest of its shape when all
of it has been read. -/
def TypeFormat.parse {τ : Type} (fmt : TypeFormat τ) (text : String) : Except ParseError τ :=
  if stopsAtTag (.value []) (Json.Token.read text.toList) then .error .shape
  else parseWith (fmt.decode? false) text

def FieldType.parse (text : String) : Except ParseError FieldType :=
  FieldType.format.parse text

def AttributeType.parse (text : String) : Except ParseError AttributeType :=
  AttributeType.format.parse text

end SchemaProjection
