import SchemaProjection.Generation
import SchemaProjection.Proofs.Assembly

namespace SchemaProjection.Schema

variable {s : Schema} {c : Configuration} {u : OutputUnit} {files : List GeneratedFile}
  {f : GeneratedFile}

theorem generate_eq_ok_iff :
    (s.generate c).outcome = .ok files ↔
      ∃ fields attributes, (s.unit? c .customFields).outcome = .ok fields ∧
        (s.unit? c .variantAttributes).outcome = .ok attributes ∧
        List.Forall₂ (fun u f => OutputUnit.file c u = .ok f)
          (fields.toList ++ attributes.toList) files := by
  rw [generate]
  simp only [Run.outcome_bind, Run.outcome_ofExcept, Outcome.bind_eq_ok_iff,
    Outcome.mapM_eq_ok_iff, exists_and_left]

theorem unit?_customFields_eq_some_iff :
    (s.unit? c .customFields).outcome = .ok (some u) ↔ (s.customFieldsUnit c).outcome = .ok u := by
  rw [unit?]
  split
  next h =>
    rw [outcome_customFieldsUnit, assembleCustomFields_eq_ok_iff]
    simp [List.isEmpty_iff.mp h]
  next => simp [Run.outcome_map, Outcome.map_eq_ok_iff]

theorem unit?_variantAttributes_eq_some_iff :
    (s.unit? c .variantAttributes).outcome = .ok (some u) ↔
      (s.variantAttributesUnit c).outcome = .ok u := by
  rw [unit?]
  split
  next h =>
    rw [outcome_variantAttributesUnit, assembleVariantAttributes_eq_ok_iff]
    simp [List.isEmpty_iff.mp h]
  next => simp [Run.outcome_map, Outcome.map_eq_ok_iff]

theorem customFieldsUnit_eq_ok_iff :
    (s.customFieldsUnit c).outcome = .ok u ↔
      s.types ≠ [] ∧ List.Forall₂ (fun t cls => t.synthesize c = .ok cls) s.types u.classes ∧
        (u.classes.map (·.name)).Nodup ∧ u.domain = .customFields ∧
        u.package = c.packageSegments := by
  rw [outcome_customFieldsUnit, assembleCustomFields_eq_ok_iff]

theorem exists_type_of_mem_classes (h : (s.customFieldsUnit c).outcome = .ok u) {cls : OutputClass}
    (hcls : cls ∈ u.classes) : ∃ t ∈ s.types, t.synthesize c = .ok cls :=
  Outcome.exists_of_mem_forall₂ (customFieldsUnit_eq_ok_iff.mp h).2.1 hcls

theorem exists_class_of_mem_types (h : (s.customFieldsUnit c).outcome = .ok u) {t : CustomFieldType}
    (ht : t ∈ s.types) : ∃ cls ∈ u.classes, t.synthesize c = .ok cls :=
  Outcome.exists_of_mem_forall₂ (customFieldsUnit_eq_ok_iff.mp h).2.1.flip ht

theorem variantAttributesUnit_eq_ok_iff :
    (s.variantAttributesUnit c).outcome = .ok u ↔
      s.productTypes ≠ [] ∧
        List.Forall₂ (fun p cls => p.synthesize s c = .ok cls) s.productTypes u.classes ∧
        (u.classes.map (·.name)).Nodup ∧ u.domain = .variantAttributes ∧
        u.package = c.packageSegments := by
  rw [outcome_variantAttributesUnit, assembleVariantAttributes_eq_ok_iff]

theorem package_of_unit? {domain : Domain} (h : (s.unit? c domain).outcome = .ok (some u)) :
    u.domain = domain ∧ u.package = c.packageSegments := by
  cases domain with
  | customFields =>
    exact (customFieldsUnit_eq_ok_iff.mp (unit?_customFields_eq_some_iff.mp h)).2.2.2
  | variantAttributes =>
    exact (variantAttributesUnit_eq_ok_iff.mp (unit?_variantAttributes_eq_some_iff.mp h)).2.2.2

theorem exists_units_of_generate (h : (s.generate c).outcome = .ok files) :
    ∃ units, List.Forall₂ (fun u f => (s.unit? c u.domain).outcome = .ok (some u) ∧
      OutputUnit.file c u = .ok f) units files := by
  obtain ⟨fields, attributes, hc, hv, hm⟩ := generate_eq_ok_iff.mp h
  refine ⟨fields.toList ++ attributes.toList, (List.forall₂_and_left _ _).mpr ⟨fun u hu => ?_, hm⟩⟩
  rw [List.mem_append, Option.mem_toList, Option.mem_toList] at hu
  obtain rfl | rfl := hu
  · rwa [(package_of_unit? hc).1]
  · rwa [(package_of_unit? hv).1]

theorem exists_unit_of_mem_files (h : (s.generate c).outcome = .ok files) (hf : f ∈ files) :
    ∃ domain u, (s.unit? c domain).outcome = .ok (some u) ∧ OutputUnit.file c u = .ok f := by
  obtain ⟨units, hunits⟩ := exists_units_of_generate h
  obtain ⟨u, -, hu⟩ := Outcome.exists_of_mem_forall₂ hunits hf
  exact ⟨u.domain, u, hu⟩

theorem exists_customFields_file (h : (s.generate c).outcome = .ok files) (ht : s.types ≠ []) :
    ∃ u f, (s.customFieldsUnit c).outcome = .ok u ∧ f ∈ files ∧ OutputUnit.file c u = .ok f := by
  obtain ⟨fields, attributes, hc, -, hm⟩ := generate_eq_ok_iff.mp h
  cases fields with
  | none =>
    rw [unit?, if_neg (mt List.isEmpty_iff.mp ht), Run.outcome_map, Outcome.map_eq_ok_iff] at hc
    obtain ⟨u, -, hu⟩ := hc
    cases hu
  | some u =>
    obtain ⟨f, hf, hmem⟩ := Outcome.exists_of_mem_forall₂ hm.flip
      (List.mem_append_left _ (Option.mem_toList.mpr rfl))
    exact ⟨u, f, unit?_customFields_eq_some_iff.mp hc, hf, hmem⟩

end SchemaProjection.Schema

namespace SchemaProjection

theorem generateFromJson_eq_ok_iff {text : String} {c : Configuration}
    {files : List GeneratedFile} :
    (generateFromJson text c).outcome = .ok files ↔
      ∃ snapshot, Snapshot.parse text = .ok snapshot ∧
        (Schema.ofSnapshot snapshot).validate = .ok () ∧
        ((Schema.ofSnapshot snapshot).generate c).outcome = .ok files := by
  rw [generateFromJson]
  cases Snapshot.parse text with
  | error e => simp
  | ok snapshot =>
    simp only [Snapshot.generate, Except.ok.injEq, exists_eq_left']
    cases (Schema.ofSnapshot snapshot).validate with
    | error e => simp
    | ok => simp

end SchemaProjection
