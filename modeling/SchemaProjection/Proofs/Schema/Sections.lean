import SchemaProjection.Proofs.Json.Reader
import SchemaProjection.Proofs.Schema.Reading

namespace SchemaProjection.Sections

open Json

variable {α : Type} {text t d : String} {v w : Json} {members : List (String × Json)}
  {item? : Json → Option α}

/-- The text holds the value, in which no object repeats a name. -/
def ReadsAs (text : String) (v : Json) : Prop :=
  ∃ written, Json.read text = .ok written ∧ v.SameValue written

/-- The text holds an object. Of repeated members only the last are among the given ones. -/
def ReadsAsObject (text : String) (members : List (String × Json)) : Prop :=
  ∃ written, Json.read text = .ok written ∧ written.lastWins = .object members

def HasMember (members : List (String × Json)) (name : String) (v : Json) : Prop :=
  ∃ written, members.lookup name = some written ∧ v.SameValue written

def ofShape (x : Option α) : Except ParseError α :=
  x.elim (.error .shape) .ok

theorem ofShape_eq_ok_iff {x : Option α} {a : α} : ofShape x = .ok a ↔ x = some a := by
  cases x <;> simp [ofShape]

theorem ofShape_eq_shape_iff {x : Option α} : ofShape x = .error .shape ↔ x = none := by
  cases x <;> simp [ofShape]

theorem parseWith_of_read (h : Json.read text = .ok v) :
    parseWith item? text = ofShape (item? v) := by
  obtain ⟨⟨v', rest⟩, hread, h⟩ := Outcome.bind_eq_ok_iff.mp h
  obtain ⟨hend, h⟩ := Outcome.check_bind_eq_ok_iff.mp h
  cases h
  rw [parseWith, hread, Except.mapError, Outcome.ok_bind]
  cases hitem : item? v with
  | none =>
    simp only [hitem]
    rfl
  | some a =>
    simp only [hitem, hend]
    rfl

theorem parseWith_of_readsAs (hitem : Respects item?) (h : ReadsAs t v) :
    parseWith (section? item?) t = ofShape (section? item? v) := by
  obtain ⟨written, hread, hv⟩ := h
  rw [parseWith_of_read hread, respects_section? hitem v written hv]

theorem orDefault_of_hasMember {name : String} (hitem : Respects item?)
    (h : HasMember members name v) :
    orDefault [] (section? item?) (members.lookup name) = section? item? v := by
  obtain ⟨written, hlookup, hv⟩ := h
  rw [hlookup, orDefault, respects_section? hitem v written hv]

theorem parse_of_readsAsObject (h : ReadsAsObject d members) :
    Snapshot.parse d =
      ofShape ((orDefault [] (section? CustomFieldType.ofJson?) (members.lookup "types")).bind
        fun types =>
          (orDefault [] (section? ProductType.ofJson?) (members.lookup "productTypes")).map
            fun productTypes => ⟨types, productTypes⟩) := by
  obtain ⟨written, hread, hlast⟩ := h
  rw [Snapshot.parse, hread]
  simp only [Snapshot.ofJson, hlast]
  cases orDefault [] (section? CustomFieldType.ofJson?) (members.lookup "types") with
  | none => rfl
  | some types =>
    cases orDefault [] (section? ProductType.ofJson?) (members.lookup "productTypes") <;> rfl

theorem parse_of_types (hd : ReadsAsObject d members) (hv : HasMember members "types" v)
    (hother : members.lookup "productTypes" = none) :
    Snapshot.parse d = ofShape ((section? CustomFieldType.ofJson? v).map (⟨·, []⟩)) := by
  rw [parse_of_readsAsObject hd, orDefault_of_hasMember CustomFieldType.respects_ofJson? hv, hother]
  cases section? CustomFieldType.ofJson? v <;> rfl

theorem parse_of_productTypes (hd : ReadsAsObject d members)
    (hv : HasMember members "productTypes" v) (hother : members.lookup "types" = none) :
    Snapshot.parse d = ofShape ((section? ProductType.ofJson? v).map (⟨[], ·⟩)) := by
  rw [parse_of_readsAsObject hd, orDefault_of_hasMember ProductType.respects_ofJson? hv, hother]
  cases section? ProductType.ofJson? v <;> rfl

/-- A text that holds one collection is read as a snapshot whose other section is missing. -/
theorem parse_agrees (ht : ReadsAs t v) (hd : ReadsAsObject d members) :
    (HasMember members "types" v → members.lookup "productTypes" = none →
      (∀ types, CustomFieldType.parseAll t = .ok types ↔ Snapshot.parse d = .ok ⟨types, []⟩) ∧
      (CustomFieldType.parseAll t = .error .shape ↔ Snapshot.parse d = .error .shape)) ∧
    (HasMember members "productTypes" v → members.lookup "types" = none →
      (∀ productTypes, ProductType.parseAll t = .ok productTypes ↔
        Snapshot.parse d = .ok ⟨[], productTypes⟩) ∧
      (ProductType.parseAll t = .error .shape ↔ Snapshot.parse d = .error .shape)) := by
  refine ⟨fun hv hother => ?_, fun hv hother => ?_⟩
  · rw [CustomFieldType.parseAll, parseWith_of_readsAs CustomFieldType.respects_ofJson? ht,
      parse_of_types hd hv hother]
    simp [ofShape_eq_ok_iff, ofShape_eq_shape_iff]
  · rw [ProductType.parseAll, parseWith_of_readsAs ProductType.respects_ofJson? ht,
      parse_of_productTypes hd hv hother]
    simp [ofShape_eq_ok_iff, ofShape_eq_shape_iff]

def oneType : Json :=
  .array [.object [("id", .string "t"), ("key", .string "k")]]

def turnedType : Json :=
  .array [.object [("key", .string "k"), ("id", .string "t")]]

def nameless : Json :=
  .array [.array [.string "p", .null]]

def oneTypeText : String :=
  "[\x7b\"id\":\"t\",\"key\":\"k\"\x7d]"

def turnedTypeText : String :=
  "\x7b\"types\":null,\"note\":true,\"types\":[\x7b\"key\":\"k\",\"id\":\"t\"\x7d]\x7d"

def namelessText : String :=
  "[[\"p\",null]]"

def namelessSectionText : String :=
  "\x7b\"productTypes\":[[\"p\",null]]\x7d"

theorem sameValue_turnedType : oneType.SameValue turnedType :=
  .array (.cons (.object (by decide) (.cons ⟨.string "t"⟩ (.cons ⟨.string "k"⟩ .nil))
    (.swap _ _ _)) .nil)

set_option maxRecDepth 10000 in
theorem read_texts :
    Json.read oneTypeText = .ok oneType ∧
    Json.read turnedTypeText =
      .ok (.object [("types", .null), ("note", .bool true), ("types", turnedType)]) ∧
    Json.read namelessText = .ok nameless ∧
    Json.read namelessSectionText = .ok (.object [("productTypes", nameless)]) := by
  refine ⟨?_, ?_, ?_, ?_⟩
  · rw [show oneTypeText = .ofList _ from rfl, Json.read_ofList]
    with_unfolding_all rfl
  · rw [show turnedTypeText = .ofList _ from rfl, Json.read_ofList]
    with_unfolding_all rfl
  · rw [show namelessText = .ofList _ from rfl, Json.read_ofList]
    with_unfolding_all rfl
  · rw [show namelessSectionText = .ofList _ from rfl, Json.read_ofList]
    with_unfolding_all rfl

theorem parse_agrees_texts :
    CustomFieldType.parseAll oneTypeText = .ok [{ id := "t", key := "k" }] ∧
    Snapshot.parse turnedTypeText = .ok ⟨[{ id := "t", key := "k" }], []⟩ ∧
    ProductType.parseAll namelessText = .error .shape ∧
    Snapshot.parse namelessSectionText = .error .shape := by
  obtain ⟨htypes, hsnapshot, htext, hsection⟩ := read_texts
  have hparse : CustomFieldType.parseAll oneTypeText = .ok [{ id := "t", key := "k" }] := by
    rw [CustomFieldType.parseAll, parseWith_of_read htypes]
    rfl
  have hshape : ProductType.parseAll namelessText = .error .shape := by
    rw [ProductType.parseAll, parseWith_of_read htext]
    rfl
  have hagrees := (parse_agrees ⟨oneType, htypes, sameValue_self_iff.mpr rfl⟩ ⟨_, hsnapshot, rfl⟩).1
    ⟨turnedType, rfl, sameValue_turnedType⟩ rfl
  have hrefused := (parse_agrees ⟨nameless, htext, sameValue_self_iff.mpr rfl⟩ ⟨_, hsection, rfl⟩).2
    ⟨nameless, rfl, sameValue_self_iff.mpr rfl⟩ rfl
  exact ⟨hparse, (hagrees.1 _).mp hparse, hshape, hrefused.2.mp hshape⟩

end SchemaProjection.Sections
