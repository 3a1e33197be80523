import SchemaProjection.Proofs.Clash
import SchemaProjection.Proofs.Mapping
import SchemaProjection.Proofs.Naming
import SchemaProjection.Synthesis

namespace SchemaProjection

theorem requireNone_eq_ok_iff {clash : Option Clash} {error : Clash → GenerationError} :
    requireNone clash error = .ok () ↔ clash = none := by
  cases clash <;> simp [requireNone]

theorem exists_requireNone_eq_error {clash : Option Clash} {error : Clash → GenerationError}
    (h : requireNone clash error ≠ .ok ()) : ∃ c, requireNone clash error = .error (error c) := by
  cases clash with
  | none => exact absurd rfl h
  | some c => exact ⟨c, rfl⟩

theorem requireNone_eq_error_iff {clash : Option Clash} {error : Clash → GenerationError}
    {e : GenerationError} :
    requireNone clash error = .error e ↔ ∃ c, clash = some c ∧ e = error c := by
  cases clash <;> simp [requireNone, eq_comm]

theorem checkFieldNames_eq_ok_iff {className : String} {fields : List OutputField} :
    checkFieldNames className fields = .ok () ↔ (fields.map (·.name)).Nodup := by
  rw [checkFieldNames, requireNone_eq_ok_iff, Clash.find?_nil_eq_none_iff, List.map_map]
  rfl

theorem checkConstantNames_eq_ok_iff {className : String} {constants : List OutputConstant} :
    checkConstantNames className constants = .ok () ↔ (constants.map (·.name)).Nodup := by
  rw [checkConstantNames, requireNone_eq_ok_iff, Clash.find?_nil_eq_none_iff, List.map_map]
  rfl

theorem checkFieldNames_eq_error_iff {className : String} {fields : List OutputField}
    {e : GenerationError} :
    checkFieldNames className fields = .error e ↔
      ∃ first second, FirstRepeat (·.name) fields first second ∧
        e = .duplicateField className ⟨second.name, first.raw, second.raw⟩ := by
  rw [checkFieldNames, requireNone_eq_error_iff]
  simp only [Clash.find?_map_eq_some_iff]
  constructor
  · rintro ⟨_, ⟨first, second, hrepeat, rfl⟩, rfl⟩
    exact ⟨first, second, hrepeat, rfl⟩
  · rintro ⟨first, second, hrepeat, rfl⟩
    exact ⟨_, ⟨first, second, hrepeat, rfl⟩, rfl⟩

theorem exists_checkFieldNames_eq_error {className : String} {fields : List OutputField}
    (h : ¬ (fields.map (·.name)).Nodup) :
    ∃ clash, checkFieldNames className fields = .error (.duplicateField className clash) :=
  exists_requireNone_eq_error (mt checkFieldNames_eq_ok_iff.mp h)

theorem exists_checkConstantNames_eq_error {className : String} {constants : List OutputConstant}
    (h : ¬ (constants.map (·.name)).Nodup) :
    ∃ clash, checkConstantNames className constants =
      .error (.duplicateConstant className clash) :=
  exists_requireNone_eq_error (mt checkConstantNames_eq_ok_iff.mp h)

variable {s : Schema} {c : Configuration} {cls : OutputClass}

namespace CustomFieldType

variable {t : CustomFieldType}

theorem outputField_eq_ok_iff {d : Definition FieldType} {f : OutputField} :
    t.outputField c d = .ok f ↔
      c.fieldName .customFields t.identity d.name = .ok f.name ∧
        f.type = d.type.output ∧ f.raw = d.name := by
  rw [outputField]
  rw [Outcome.bind_eq_ok_iff]
  constructor
  · rintro ⟨name, hn, h⟩
    cases h
    exact ⟨hn, rfl, rfl⟩
  · obtain ⟨name, type, raw⟩ := f
    rintro ⟨hn, rfl, rfl⟩
    exact ⟨name, hn, rfl⟩

theorem synthesize_eq_ok_iff :
    t.synthesize c = .ok cls ↔
      ∃ name fields, c.className .customFields t.identity = .ok name ∧
        List.Forall₂ (fun d f => t.outputField c d = .ok f) t.fields fields ∧
        (fields.map (·.name)).Nodup ∧
        cls = { name, fields := [], equality := .marker, constants := [],
                projection := .customFields t.key, nested := some (record fields) } := by
  rw [synthesize]
  simp only [Outcome.bind_eq_ok_iff, Outcome.mapM_eq_ok_iff, Outcome.pure_eq_ok_iff]
  constructor
  · rintro ⟨name, hn, fields, hf, _, hd, rfl⟩
    exact ⟨name, fields, hn, hf, checkFieldNames_eq_ok_iff.mp hd, rfl⟩
  · rintro ⟨name, fields, hn, hf, hd, rfl⟩
    exact ⟨name, hn, fields, hf, (), checkFieldNames_eq_ok_iff.mpr hd, rfl⟩

end CustomFieldType

namespace ProductType

variable {p : ProductType}

theorem outputField_eq_ok_iff {d : Definition AttributeType} {m : OutputField × OutputConstant} :
    p.outputField s c d = .ok m ↔
      c.fieldName .variantAttributes p.identity d.name = .ok m.1.name ∧
        d.type.output s c (c.isRequired p.identity d.name d.required) = .ok m.1.type ∧
        c.constantName .variantAttributes p.identity d.name = .ok m.2.name ∧
        m.1.raw = d.name ∧ m.2.value = d.name := by
  rw [outputField]
  simp only [Outcome.bind_eq_ok_iff]
  constructor
  · rintro ⟨name, hn, type, ht, constant, hk, h⟩
    cases h
    exact ⟨hn, ht, hk, rfl, rfl⟩
  · obtain ⟨⟨name, type, raw⟩, constant, value⟩ := m
    rintro ⟨hn, ht, hk, rfl, rfl⟩
    exact ⟨name, hn, type, ht, constant, hk, rfl⟩

theorem synthesize_eq_ok_iff :
    p.synthesize s c = .ok cls ↔
      ∃ name members, c.className .variantAttributes p.identity = .ok name ∧
        List.Forall₂ (fun d m => p.outputField s c d = .ok m) p.attributes members ∧
        (members.map (·.1.name)).Nodup ∧ (members.map (·.2.name)).Nodup ∧
        cls = { name, fields := members.map (·.1), equality := .forFieldCount members.length,
                constants := members.map (·.2), projection := .variantAttributes p.id,
                nested := none } := by
  rw [synthesize]
  simp only [Outcome.bind_eq_ok_iff, Outcome.mapM_eq_ok_iff, Outcome.pure_eq_ok_iff,
    List.length_map]
  constructor
  · rintro ⟨name, hn, members, hm, _, hf, _, hk, rfl⟩
    have hf' := checkFieldNames_eq_ok_iff.mp hf
    have hk' := checkConstantNames_eq_ok_iff.mp hk
    rw [List.map_map] at hf' hk'
    exact ⟨name, members, hn, hm, hf', hk', rfl⟩
  · rintro ⟨name, members, hn, hm, hf, hk, rfl⟩
    refine ⟨name, hn, members, hm, (), checkFieldNames_eq_ok_iff.mpr ?_, (),
      checkConstantNames_eq_ok_iff.mpr ?_, rfl⟩
    · rwa [List.map_map]
    · rwa [List.map_map]

theorem synthesize_congr {s' : Schema} (h : ∀ id, s.productType? id = s'.productType? id) :
    p.synthesize s c = p.synthesize s' c := by
  have hfield : p.outputField s c = p.outputField s' c := by
    funext d
    rw [outputField, outputField, AttributeType.output, AttributeType.output,
      AttributeType.shape_congr fun id _ => h id]
  rw [synthesize, synthesize, hfield]

/-- The class of a product type has the name that references to the product type use, and says
which product type it is the class of. -/
theorem name_and_projection_of_synthesize (h : p.synthesize s c = .ok cls) :
    c.className .variantAttributes p.identity = .ok cls.name ∧
      cls.projection = .variantAttributes p.id ∧ cls.nested = none := by
  obtain ⟨name, members, hn, -, -, -, rfl⟩ := synthesize_eq_ok_iff.mp h
  exact ⟨hn, rfl, rfl⟩

theorem forall₂_fields_of_synthesize (h : p.synthesize s c = .ok cls) :
    List.Forall₂ (fun d f => c.fieldName .variantAttributes p.identity d.name = .ok f.name ∧
      d.type.output s c (c.isRequired p.identity d.name d.required) = .ok f.type ∧
      f.raw = d.name) p.attributes cls.fields := by
  obtain ⟨name, members, -, hm, -, -, rfl⟩ := synthesize_eq_ok_iff.mp h
  rw [List.forall₂_map_right_iff]
  exact hm.imp fun d m h => by
    obtain ⟨hn, ht, -, hr, -⟩ := outputField_eq_ok_iff.mp h
    exact ⟨hn, ht, hr⟩

end ProductType

end SchemaProjection
