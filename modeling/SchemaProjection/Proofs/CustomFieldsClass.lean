import SchemaProjection.Proofs.Synthesis

namespace SchemaProjection.CustomFieldsClass

variable {c : Configuration} {t : CustomFieldType} {cls : OutputClass} {n : String} {clash : Clash}

def fieldName (c : Configuration) (t : CustomFieldType) (d : Definition FieldType) : String :=
  c.chosenFieldName .customFields t.identity d.name

def fieldOf (c : Configuration) (t : CustomFieldType) (d : Definition FieldType) : OutputField :=
  ⟨fieldName c t d, d.type.output, d.name⟩

structure HasValidNames (c : Configuration) (t : CustomFieldType) : Prop where
  className : ∃ n, c.chosenClassName .customFields t.identity = some n ∧
    Identifier.isIdentifier n = true ∧ Identifier.isKeyword n = false
  fieldNames : ∀ d ∈ t.fields, Identifier.isIdentifier (fieldName c t d) = true

/-- What the field of a definition is. Whether the definition or an override requires the field does
not matter. -/
structure IsFieldOf (c : Configuration) (t : CustomFieldType) (d : Definition FieldType)
    (f : OutputField) : Prop where
  raw : f.raw = d.name
  name : f.name = fieldName c t d
  nullable : f.type.nullabilities = List.replicate (d.type.depth + 1) true
  noClass : ∀ n, f.type.shape.leaf ≠ .generated n
  noAttributeList : f.type.shape.leaf ≠ .attributeList

/-- What the class of a custom-field type is. -/
structure IsClassOf (c : Configuration) (t : CustomFieldType) (cls : OutputClass) : Prop where
  name : c.chosenClassName .customFields t.identity = some cls.name
  fields : cls.fields = []
  projection : cls.projection = .customFields t.key
  record : ∃ record, cls.nested = some record ∧ record.name = "Fields" ∧
    record.projection = .record ∧ List.Forall₂ (IsFieldOf c t) t.fields record.fields

theorem exists_className_iff :
    (∃ n, c.className .customFields t.identity = .ok n) ↔
      ∃ n, c.chosenClassName .customFields t.identity = some n ∧
        Identifier.isIdentifier n = true ∧ Identifier.isKeyword n = false :=
  exists_congr fun _ => Configuration.className_eq_ok_iff

theorem outputField_of_valid {d : Definition FieldType}
    (h : Identifier.isIdentifier (fieldName c t d) = true) :
    t.outputField c d = .ok (fieldOf c t d) :=
  CustomFieldType.outputField_eq_ok_iff.mpr
    ⟨Configuration.fieldName_eq_ok_iff.mpr ⟨h, rfl⟩, rfl, rfl⟩

theorem outputField_of_invalid {d : Definition FieldType}
    (h : ¬ Identifier.isIdentifier (fieldName c t d) = true) :
    t.outputField c d =
      .error (.invalidIdentifier .fieldName (fieldName c t d) t.identity.key) := by
  rw [CustomFieldType.outputField]
  change checkName .fieldName t.identity (fieldName c t d) >>= _ = _
  rw [checkName_of_invalid h, Outcome.error_bind]

theorem mapM_outputField (h : ∀ d ∈ t.fields, Identifier.isIdentifier (fieldName c t d) = true) :
    t.fields.mapM (t.outputField c) = .ok (t.fields.map (fieldOf c t)) := by
  rw [Outcome.mapM_eq_ok_iff, List.forall₂_map_right_iff, List.forall₂_same]
  intro d hd
  exact outputField_of_valid (h d hd)

theorem synthesize_eq_check (hn : c.className .customFields t.identity = .ok n)
    (hf : ∀ d ∈ t.fields, Identifier.isIdentifier (fieldName c t d) = true) :
    t.synthesize c = (checkFieldNames n (t.fields.map (fieldOf c t))).map fun _ =>
      { name := n, fields := [], equality := .marker, constants := [],
        projection := .customFields t.key,
        nested := some (CustomFieldType.record (t.fields.map (fieldOf c t))) } := by
  rw [CustomFieldType.synthesize, hn, Outcome.ok_bind, mapM_outputField hf, Outcome.ok_bind]
  cases checkFieldNames n (t.fields.map (fieldOf c t)) <;> rfl

theorem exists_invalid_of_outputField {d : Definition FieldType} {e : GenerationError}
    (h : t.outputField c d = .error e) :
    ∃ text, e = .invalidIdentifier .fieldName text t.key := by
  by_cases hd : Identifier.isIdentifier (fieldName c t d) = true
  · rw [outputField_of_valid hd] at h
    cases h
  · rw [outputField_of_invalid hd] at h
    exact ⟨fieldName c t d, (Except.error.inj h).symm⟩

theorem fieldNames_of_mapM {fields : List OutputField}
    (h : t.fields.mapM (t.outputField c) = .ok fields) :
    ∀ d ∈ t.fields, Identifier.isIdentifier (fieldName c t d) = true := by
  intro d hd
  by_contra hinvalid
  obtain ⟨f, hf⟩ := Outcome.exists_mapM_eq_ok_iff.mp ⟨fields, h⟩ d hd
  rw [outputField_of_invalid hinvalid] at hf
  cases hf

/-- A name that is not valid decides the error, whatever clashes there are. -/
theorem exists_invalid_of_synthesize (h : ¬ HasValidNames c t) :
    ∃ role text, t.synthesize c = .error (.invalidIdentifier role text t.key) := by
  rw [CustomFieldType.synthesize]
  cases hn : c.className .customFields t.identity with
  | error e =>
    obtain ⟨text, rfl⟩ := Configuration.exists_invalid_of_className hn
    exact ⟨.className, text, rfl⟩
  | ok n =>
    cases hm : t.fields.mapM (t.outputField c) with
    | error e =>
      obtain ⟨before, d, after, -, -, hd⟩ := Outcome.mapM_eq_error_iff.mp hm
      obtain ⟨text, rfl⟩ := exists_invalid_of_outputField hd
      exact ⟨.fieldName, text, rfl⟩
    | ok fields =>
      exact absurd ⟨exists_className_iff.mp ⟨n, hn⟩, fieldNames_of_mapM hm⟩ h

theorem map_name_fieldOf (c : Configuration) (t : CustomFieldType) :
    (t.fields.map (fieldOf c t)).map (·.name) = t.fields.map (fieldName c t) :=
  List.map_map

theorem exists_synthesize_eq_ok_iff :
    (∃ cls, t.synthesize c = .ok cls) ↔
      HasValidNames c t ∧ (t.fields.map (fieldName c t)).Nodup := by
  by_cases h : HasValidNames c t
  · obtain ⟨n, hn⟩ := exists_className_iff.mpr h.className
    rw [← map_name_fieldOf, ← checkFieldNames_eq_ok_iff, and_iff_right h]
    rw [synthesize_eq_check hn h.fieldNames]
    cases checkFieldNames n (t.fields.map (fieldOf c t)) with
    | error e => simp [Except.map]
    | ok _ => exact iff_of_true ⟨_, rfl⟩ rfl
  · obtain ⟨role, text, he⟩ := exists_invalid_of_synthesize h
    simp [he, h]

theorem isFieldOf_fieldOf (c : Configuration) (t : CustomFieldType) (d : Definition FieldType) :
    IsFieldOf c t d (fieldOf c t d) :=
  ⟨rfl, rfl, d.type.nullabilities_output, d.type.leaf_shape_ne_generated,
    d.type.leaf_shape_ne_attributeList⟩

theorem isClassOf_of_synthesize (h : t.synthesize c = .ok cls) : IsClassOf c t cls := by
  obtain ⟨hvalid, -⟩ := exists_synthesize_eq_ok_iff.mp ⟨cls, h⟩
  obtain ⟨n, hn⟩ := exists_className_iff.mpr hvalid.className
  rw [synthesize_eq_check hn hvalid.fieldNames] at h
  obtain ⟨-, -, rfl⟩ := Outcome.map_eq_ok_iff.mp h
  refine ⟨(Configuration.className_eq_ok_iff.mp hn).1, rfl, rfl, _, rfl, rfl, rfl, ?_⟩
  rw [CustomFieldType.record, List.forall₂_map_right_iff, List.forall₂_same]
  exact fun d _ => isFieldOf_fieldOf c t d

theorem synthesize_eq_duplicateField_iff :
    t.synthesize c = .error (.duplicateField n clash) ↔
      HasValidNames c t ∧ c.chosenClassName .customFields t.identity = some n ∧
        ∃ first second, FirstRepeat (fieldName c t) t.fields first second ∧
          clash = ⟨fieldName c t second, first.name, second.name⟩ := by
  by_cases h : HasValidNames c t
  · obtain ⟨m, hm⟩ := exists_className_iff.mpr h.className
    have hname := (Configuration.className_eq_ok_iff.mp hm).1
    rw [synthesize_eq_check hm h.fieldNames, Outcome.map_eq_error_iff, checkFieldNames_eq_error_iff,
      and_iff_right h, hname, Option.some.injEq]
    simp only [firstRepeat_map_iff, GenerationError.duplicateField.injEq]
    constructor
    · rintro ⟨_, _, ⟨first, second, hrepeat, rfl, rfl⟩, rfl, rfl⟩
      exact ⟨rfl, first, second, hrepeat, rfl⟩
    · rintro ⟨rfl, first, second, hrepeat, rfl⟩
      exact ⟨_, _, ⟨first, second, hrepeat, rfl, rfl⟩, rfl, rfl⟩
  · obtain ⟨role, text, he⟩ := exists_invalid_of_synthesize h
    simp [he, h]

/-- When a custom-field type has a class, which class it is, and which fields are said to clash when
two have one name. -/
theorem synthesize_by_field_names (c : Configuration) (t : CustomFieldType) :
    ((∃ cls, t.synthesize c = .ok cls) ↔
      HasValidNames c t ∧ (t.fields.map (fieldName c t)).Nodup) ∧
    (∀ cls, t.synthesize c = .ok cls → IsClassOf c t cls) ∧
    (∀ n clash, t.synthesize c = .error (.duplicateField n clash) ↔
      HasValidNames c t ∧ c.chosenClassName .customFields t.identity = some n ∧
        ∃ first second, FirstRepeat (fieldName c t) t.fields first second ∧
          clash = ⟨fieldName c t second, first.name, second.name⟩) ∧
    (¬ (t.fields.map (fieldName c t)).Nodup ↔
      ∃ first second, FirstRepeat (fieldName c t) t.fields first second) :=
  ⟨exists_synthesize_eq_ok_iff, fun _ => isClassOf_of_synthesize,
    fun _ _ => synthesize_eq_duplicateField_iff, exists_firstRepeat_iff.symm⟩

/-- All of its names are valid, but three fields have the same. -/
def ribbon : CustomFieldType where
  id := "r"
  key := "ribbon"
  fields :=
    [{ name := "color-code", type := .string }, { name := "width", type := .number },
     { name := "color_code", type := .set .string }, { name := "color.code", type := .unknown }]

def parcel : CustomFieldType where
  id := "p"
  key := "parcel"
  fields :=
    [{ name := "giftWrap", type := .boolean, required := true },
     { name := "stops", type := .set (.set (.reference .zone)), required := true }]

def posted : Configuration :=
  { customTypes := .ofList
      [("parcel", { fields := .ofList [("stops", "route")],
                    required := .ofList [("giftWrap", true)] })] }

theorem synthesize_by_field_names_parcel :
    (∃ cls, parcel.synthesize posted = .ok cls ∧ IsClassOf posted parcel cls) ∧
    parcel.fields.map (fieldName posted parcel) = ["giftWrap", "route"] ∧
    ribbon.synthesize posted =
      .error (.duplicateField "TypedRibbonFields" ⟨"color_code", "color-code", "color_code"⟩) := by
  obtain ⟨hexists, hclass, -⟩ := synthesize_by_field_names posted parcel
  obtain ⟨-, -, hclash, -⟩ := synthesize_by_field_names posted ribbon
  have hparcel : HasValidNames posted parcel := ⟨⟨_, rfl, rfl, rfl⟩, by decide +kernel⟩
  have hribbon : HasValidNames posted ribbon := ⟨⟨_, rfl, rfl, rfl⟩, by decide +kernel⟩
  have hrepeat : FirstRepeat (fieldName posted ribbon) ribbon.fields _ _ :=
    ⟨[], [_], [_], rfl, by decide +kernel, by decide +kernel⟩
  obtain ⟨cls, hcls⟩ := hexists.mpr ⟨hparcel, by decide +kernel⟩
  exact ⟨⟨cls, hcls, hclass cls hcls⟩, by decide +kernel,
    (hclash _ _).mpr ⟨hribbon, rfl, _, _, hrepeat, by decide +kernel⟩⟩

end SchemaProjection.CustomFieldsClass
