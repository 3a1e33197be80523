import SchemaProjection.Json.Value
import SchemaProjection.Schema.FieldType

/-!
The JSON form of schema types. A type is an object whose member `name` is its tag, or an array
that begins with the tag; sets, references and nested types have one more member or element.
-/

namespace SchemaProjection

inductive TypeTag (τ : Type) where
  | leaf (t : τ)
  | reference
  | set
  | nested

structure TypeFormat (τ : Type) where
  tags : List (String × TypeTag τ)
  unknown : τ
  reference : String → τ
  set : τ → τ
  nested : String → τ

namespace Json

def uniqueMember? (members : List (String × Json)) (name : String) : Option Json :=
  match members.filter (·.1 == name) with
  | [(_, v)] => some v
  | _ => none

theorem sizeOf_lt_of_mem {members : List (String × Json)} {e : String × Json}
    (h : e ∈ members) : sizeOf e.2 < sizeOf members := by
  have := List.sizeOf_lt_of_mem h
  obtain ⟨k, v⟩ := e
  simp only [Prod.mk.sizeOf_spec] at this
  simp only
  omega

theorem sizeOf_uniqueMember? {members : List (String × Json)} {name : String} {v : Json}
    (h : uniqueMember? members name = some v) : sizeOf v < sizeOf members := by
  rw [uniqueMember?] at h
  split at h
  next k w hf =>
    cases h
    exact sizeOf_lt_of_mem (List.mem_filter.1 (hf ▸ List.mem_singleton_self (k, v))).1
  next => simp at h

def typeTag? : Json → Option Json
  | .array (t :: _) => some t
  | .object members => uniqueMember? members "name"
  | _ => none

def isBareType : Json → Bool
  | .array [_] => true
  | .object _ => true
  | _ => false

def typePayload? (name : String) : Json → Option Json
  | .array [_, v] => some v
  | .object members => uniqueMember? members name
  | _ => none

theorem sizeOf_typePayload? {name : String} {j v : Json} (h : j.typePayload? name = some v) :
    sizeOf v < sizeOf j := by
  rw [typePayload?.eq_def] at h
  split at h
  · cases h; simp; omega
  · have := sizeOf_uniqueMember? h
    simp; omega
  · cases h

/-- The name of a resource kind: a text, or the name of an object's only member, whose value says
nothing. -/
def referenceName? : Json → Option String
  | .string s => some s
  | .object [(s, .null)] => some s
  | .object [(s, .object [])] => some s
  | _ => none

def nestedId? (j : Json) : Option String :=
  match j.slots? ["id"] with
  | some [some (.string s)] => some s
  | _ => none

end Json

namespace TypeFormat

variable {τ : Type} (fmt : TypeFormat τ)

/-- A tag is a text or, where `indexed`, a position in the list of tags. A text or position that
is none of them denotes the unknown type. -/
def tag? (indexed : Bool) : Json → Option (TypeTag τ)
  | .string s => some ((fmt.tags.lookup s).getD (.leaf fmt.unknown))
  | .natural n =>
    if indexed then some ((fmt.tags[n]?.map (·.2)).getD (.leaf fmt.unknown)) else none
  | _ => none

/-- Reads a type. The element type of a set may always be tagged by position. -/
def decode? (indexed : Bool) (j : Json) : Option τ :=
  match j.typeTag?.bind (fmt.tag? indexed) with
  | none => none
  | some (.leaf t) => if j.isBareType then some t else none
  | some .reference => ((j.typePayload? "referenceTypeId").bind (·.referenceName?)).map fmt.reference
  | some .nested => ((j.typePayload? "typeReference").bind (·.nestedId?)).map fmt.nested
  | some .set =>
    match _h : j.typePayload? "elementType" with
    | none => none
    | some element => (decode? true element).map fmt.set
termination_by sizeOf j
decreasing_by exact Json.sizeOf_typePayload? _h

end TypeFormat

def FieldType.format : TypeFormat FieldType where
  tags :=
    [("Boolean", .leaf .boolean), ("String", .leaf .string),
     ("LocalizedString", .leaf .localizedString), ("Enum", .leaf .enum),
     ("LocalizedEnum", .leaf .localizedEnum), ("Number", .leaf .number), ("Money", .leaf .money),
     ("Date", .leaf .date), ("Time", .leaf .time), ("DateTime", .leaf .dateTime),
     ("Reference", .reference), ("Set", .set)]
  unknown := .unknown
  reference s := .reference (.ofName s)
  set := .set
  nested _ := .unknown

def AttributeType.format : TypeFormat AttributeType where
  tags :=
    [("boolean", .leaf .boolean), ("text", .leaf .text), ("ltext", .leaf .localizedText),
     ("enum", .leaf .enum), ("lenum", .leaf .localizedEnum), ("number", .leaf .number),
     ("money", .leaf .money), ("date", .leaf .date), ("time", .leaf .time),
     ("datetime", .leaf .dateTime), ("reference", .reference), ("set", .set),
     ("nested", .nested)]
  unknown := .unknown
  reference s := .reference (.ofName s)
  set := .set
  nested := .nested

end SchemaProjection
