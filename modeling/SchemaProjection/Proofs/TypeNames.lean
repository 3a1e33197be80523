import SchemaProjection.Proofs.Generation
import SchemaProjection.Proofs.Identifier
import SchemaProjection.Proofs.Source.Classes
import SchemaProjection.Proofs.Source.ImportTable

namespace SchemaProjection.TypeNames

open Identifier Source

variable {s : Schema} {c : Configuration} {u : OutputUnit} {files : List GeneratedFile}
  {imports : Imports} {ks : List CarrierClass} {sdkCrate : String}

def hasUpper (name : String) : Bool :=
  name.toList.any Char.isUpper

def fixedNames (imports : Imports) : List String :=
  ["Deserialize", "Serialize"] ++ imports.keys.map lastSegment ++ ["TypedCustomFields"]

def typeNames (imports : Imports) (ks : List CarrierClass) : List String :=
  fixedNames imports ++ ks.map (·.name) ++ ks.map (·.module)

theorem nodup_fixedNames (h : imports.keys ⊆ (importTable sdkCrate).map (·.2)) :
    (fixedNames imports).Nodup := by
  have hseg : ∀ n ∈ imports.keys.map lastSegment, n ∈ importNames :=
    List.forall_mem_map.mpr fun p hp => lastSegment_mem_importNames (h hp)
  have hserde : ∀ n ∈ importNames, n ∉ ["Deserialize", "Serialize"] := by
    decide +kernel
  have htrait : "TypedCustomFields" ∉ importNames := by
    decide +kernel
  rw [fixedNames, List.nodup_append, List.nodup_append]
  refine ⟨⟨by decide, nodup_lastSegments (KeyMap.nodup_keys _) h, ?_⟩, List.nodup_singleton _, ?_⟩
  · rintro a ha b hb rfl
    exact hserde a (hseg a hb) ha
  · intro a ha b hb he
    rw [List.mem_singleton.mp hb] at he
    subst he
    obtain ha | ha := List.mem_append.mp ha
    · exact absurd ha (by decide)
    · exact htrait (hseg _ ha)

theorem hasUpper_fixedNames (h : imports.keys ⊆ (importTable sdkCrate).map (·.2)) :
    ∀ n ∈ fixedNames imports, hasUpper n = true := by
  have hupper : ∀ n ∈ importNames, hasUpper n = true := by
    decide +kernel
  rw [fixedNames, List.forall_mem_append, List.forall_mem_append, List.forall_mem_map]
  exact ⟨⟨by decide, fun p hp => hupper _ (lastSegment_mem_importNames (h hp))⟩, by decide⟩

theorem hasUpper_ofName_eq_false (name : String) : hasUpper (ofName name) = false := by
  rw [hasUpper, List.any_eq_false]
  intro x hx
  rw [isUpper_eq_false_of_mem_ofName name x hx]
  exact Bool.false_ne_true

/-- Modules never have a capital letter, and a class name without one is the name of its own
module. -/
theorem nodup_append_modules_iff {fixed names : List String} (hf : fixed.Nodup)
    (hu : ∀ n ∈ fixed, hasUpper n = true) (hn : names.Nodup) (hm : (names.map ofName).Nodup)
    (hi : ∀ n ∈ names, isIdentifier n = true ∧ isKeyword n = false) :
    (fixed ++ names ++ names.map ofName).Nodup ↔
      ∀ n ∈ names, hasUpper n = true ∧ n ∉ fixed := by
  rw [List.nodup_append, List.nodup_append]
  constructor
  · rintro ⟨⟨-, -, hd⟩, -, hmod⟩ n hmem
    refine ⟨?_, fun hfix => hd n hfix n hmem rfl⟩
    by_contra hlow
    have hself : ofName n = n := by
      rw [ofName_eq_self_iff (hi n hmem).1 (hi n hmem).2]
      simpa [hasUpper] using hlow
    have hmap := List.mem_map_of_mem (f := ofName) hmem
    rw [hself] at hmap
    exact hmod n (List.mem_append_right _ hmem) n hmap rfl
  · intro h
    refine ⟨⟨hf, hn, ?_⟩, hm, ?_⟩
    · rintro a ha b hb rfl
      exact (h a hb).2 ha
    · rintro a ha b hb rfl
      have hup : hasUpper a = true :=
        (List.mem_append.mp ha).elim (hu a) fun hmem => (h a hmem).1
      obtain ⟨n, -, rfl⟩ := List.mem_map.mp hb
      rw [hasUpper_ofName_eq_false] at hup
      cases hup

theorem field_of_synthesize {t : CustomFieldType} {cls : OutputClass}
    (h : t.synthesize c = .ok cls) {f : OutputField} (hf : f ∈ cls.typedFields.fields) :
    ∃ d : Definition FieldType, f.type.shape = d.type.shape := by
  obtain ⟨name, fields, -, hfields, -, rfl⟩ := CustomFieldType.synthesize_eq_ok_iff.mp h
  obtain ⟨d, -, hd⟩ := Outcome.exists_of_mem_forall₂ hfields hf
  exact ⟨d, congrArg OutputType.shape (CustomFieldType.outputField_eq_ok_iff.mp hd).2.1⟩

def importsOf (sdkCrate : String) (ks : List CarrierClass) : Imports :=
  ((customFieldsLines sdkCrate ks).run ∅).2

theorem mem_keys_importsOf {path : String} :
    path ∈ (importsOf sdkCrate ks).keys ↔ path ∈ carriersPaths sdkCrate ks := by
  rw [importsOf, writes_customFieldsLines, Imports.mem_keys_addAll]
  exact or_iff_left List.not_mem_nil

theorem keys_importsOf_subset (h : (s.customFieldsUnit c).outcome = .ok u)
    (hk : carrierClasses [] u.classes = .ok ks) :
    (importsOf c.sdkCrate ks).keys ⊆ (importTable c.sdkCrate).map (·.2) := by
  intro path hpath
  rw [mem_keys_importsOf, carriersPaths, List.mem_append] at hpath
  cases hpath with
  | inl hfixed =>
    obtain ⟨x, hx, rfl⟩ := List.mem_map.mp hfixed
    have hsub : [SdkType.typeReference, SdkType.customFields] ⊆ SdkType.all := by
      decide
    exact importPath_mem_importTable _ (hsub hx)
  | inr hfield =>
    obtain ⟨k, hmem, hpath⟩ := List.mem_flatMap.mp hfield
    obtain ⟨f, hf, hpath⟩ := List.mem_flatMap.mp hpath
    obtain ⟨cls, hcls, hcarries⟩ :=
      Outcome.exists_of_mem_forall₂ (carrierClasses_eq_ok_iff.mp hk).1 hmem
    obtain ⟨t, -, ht⟩ := Schema.exists_type_of_mem_classes h hcls
    rw [hcarries.record] at hf
    obtain ⟨d, hd⟩ := field_of_synthesize ht hf
    refine paths_subset_importTable (fun x hx => ?_) hpath
    rw [hd] at hx
    exact FieldType.mem_all_of_leaf hx

theorem names_of_customFieldsUnit (h : (s.customFieldsUnit c).outcome = .ok u) :
    ∀ n ∈ u.classes.map (·.name), isIdentifier n = true ∧ isKeyword n = false := by
  rw [List.forall_mem_map]
  intro cls hcls
  obtain ⟨t, -, ht⟩ := Schema.exists_type_of_mem_classes h hcls
  obtain ⟨name, fields, hn, -, -, rfl⟩ := CustomFieldType.synthesize_eq_ok_iff.mp ht
  exact ⟨Configuration.isIdentifier_className hn, Configuration.isKeyword_eq_false_of_className hn⟩

theorem map_name_and_module_of_carries {classes : List OutputClass}
    (h : List.Forall₂ Carries classes ks) :
    ks.map (·.name) = classes.map (·.name) ∧
      ks.map (·.module) = (classes.map (·.name)).map ofName := by
  induction h with
  | nil => exact ⟨rfl, rfl⟩
  | cons hk _ ih =>
    exact ⟨congrArg₂ List.cons hk.name ih.1, congrArg₂ List.cons hk.module ih.2⟩

theorem nodup_typeNames_of_unit (h : (s.customFieldsUnit c).outcome = .ok u)
    (hk : carrierClasses [] u.classes = .ok ks) :
    (typeNames (importsOf c.sdkCrate ks) ks).Nodup ↔
      ∀ cls ∈ u.classes, hasUpper cls.name = true ∧
        cls.name ∉ fixedNames (importsOf c.sdkCrate ks) := by
  have hsub := keys_importsOf_subset h hk
  obtain ⟨-, -, hn, -, -⟩ := Schema.customFieldsUnit_eq_ok_iff.mp h
  obtain ⟨hc, hm⟩ := carrierClasses_eq_ok_iff.mp hk
  obtain ⟨hnames, hmodules⟩ := map_name_and_module_of_carries hc
  have hmod : ((u.classes.map (·.name)).map ofName).Nodup := by
    rw [List.map_map]
    exact fresh_nil_iff.mp hm
  rw [typeNames, hnames, hmodules,
    nodup_append_modules_iff (nodup_fixedNames hsub) (hasUpper_fixedNames hsub) hn hmod
      (names_of_customFieldsUnit h), List.forall_mem_map]

theorem hasUpper_defaultClassName (stem : String) :
    hasUpper (Domain.customFields.defaultClassName stem) = true := by
  rw [hasUpper, Domain.defaultClassName, String.toList_append, String.toList_append,
    List.any_append, List.any_append]
  rfl

theorem defaultClassName_mem_fixedNames_iff {stem : String}
    (h : imports.keys ⊆ (importTable sdkCrate).map (·.2)) :
    Domain.customFields.defaultClassName stem ∈ fixedNames imports ↔ stem = "Custom" := by
  have hother : ∀ n ∈ ["Deserialize", "Serialize"] ++ importNames,
      ¬ ("Typed".toList <+: n.toList ∧ "Fields".toList <:+ n.toList) := by
    decide +kernel
  have htrait : "TypedCustomFields" = "Typed" ++ "Custom" ++ "Fields" := by
    decide +kernel
  rw [fixedNames, List.mem_append, List.mem_singleton, htrait, Domain.defaultClassName,
    String.append_left_inj, String.append_right_inj]
  apply or_iff_right
  intro hm
  refine absurd (ends_append _ stem _) (hother _ ?_)
  obtain hm | hm := List.mem_append.mp hm
  · exact List.mem_append_left _ hm
  · obtain ⟨p, hp, he⟩ := List.mem_map.mp hm
    rw [← he]
    exact List.mem_append_right _ (lastSegment_mem_importNames (h hp))

theorem nodup_typeNames_of_default (h : (s.customFieldsUnit c).outcome = .ok u)
    (hk : carrierClasses [] u.classes = .ok ks)
    (hdefault : ∀ t ∈ s.types,
      (c.overridesFor .customFields t.identity).bind (·.className) = none) :
    (typeNames (importsOf c.sdkCrate ks) ks).Nodup ↔
      ∀ t ∈ s.types, Text.pascalCase t.key ≠ "Custom" := by
  have hsub := keys_importsOf_subset h hk
  have hname : ∀ t ∈ s.types, ∀ cls, t.synthesize c = .ok cls →
      cls.name = Domain.customFields.defaultClassName (Text.pascalCase t.key) := by
    intro t ht cls hcls
    obtain ⟨name, fields, hn, -, -, rfl⟩ := CustomFieldType.synthesize_eq_ok_iff.mp hcls
    have hclass := Configuration.className_of_default (hdefault t ht) hn
    exact hclass
  rw [nodup_typeNames_of_unit h hk]
  constructor
  · intro hn t ht he
    obtain ⟨cls, hmem, hcls⟩ := Schema.exists_class_of_mem_types h ht
    have hfixed := (hn cls hmem).2
    rw [hname t ht cls hcls, defaultClassName_mem_fixedNames_iff hsub] at hfixed
    exact hfixed he
  · intro hn cls hmem
    obtain ⟨t, ht, hcls⟩ := Schema.exists_type_of_mem_classes h hmem
    rw [hname t ht cls hcls, defaultClassName_mem_fixedNames_iff hsub]
    exact ⟨hasUpper_defaultClassName _, hn t ht⟩

/-- The file of the custom fields is written even when a class has a name that it must not have:
one that is imported, that of the trait, or one without a capital letter, which its own module has
too. It brings no name twice exactly when no class has such a name; where all names are derived
from keys, exactly when no key reads `Custom` in Pascal case. -/
theorem nodup_typeNames_iff (h : (s.generate c).outcome = .ok files) (ht : s.types ≠ []) :
    ∃ u ks, (s.customFieldsUnit c).outcome = .ok u ∧ carrierClasses [] u.classes = .ok ks ∧
      ⟨u.filePath, fileText u (customFieldsLines c.sdkCrate ks)⟩ ∈ files ∧
      ((typeNames (importsOf c.sdkCrate ks) ks).Nodup ↔
        ∀ cls ∈ u.classes, hasUpper cls.name = true ∧
          cls.name ∉ fixedNames (importsOf c.sdkCrate ks)) ∧
      ((∀ t ∈ s.types, (c.overridesFor .customFields t.identity).bind (·.className) = none) →
        ((typeNames (importsOf c.sdkCrate ks) ks).Nodup ↔
          ∀ t ∈ s.types, Text.pascalCase t.key ≠ "Custom")) := by
  obtain ⟨u, f, hu, hmem, hf⟩ := Schema.exists_customFields_file h ht
  obtain ⟨text, hr, rfl⟩ := Outcome.map_eq_ok_iff.mp hf
  have hd := (Schema.customFieldsUnit_eq_ok_iff.mp hu).2.2.2.1
  obtain ⟨ks, hks, rfl⟩ := (render_eq_ok_iff_carrierClasses hd).mp hr
  exact ⟨u, ks, hu, hks, hmem, nodup_typeNames_of_unit hu hks, nodup_typeNames_of_default hu hks⟩

def custom : Schema :=
  .ofCollections [{ id := "t", key := "custom" }] []

theorem not_nodup_typeNames_custom :
    custom.validate = .ok () ∧ ∃ files, (custom.generate {}).outcome = .ok files ∧
      ∃ u ks, (custom.customFieldsUnit {}).outcome = .ok u ∧
        carrierClasses [] u.classes = .ok ks ∧
        ⟨u.filePath, fileText u (customFieldsLines ({} : Configuration).sdkCrate ks)⟩ ∈ files ∧
        ¬ (typeNames (importsOf ({} : Configuration).sdkCrate ks) ks).Nodup := by
  obtain ⟨u, ks, hu, hk, hfile, -, hdefault⟩ := nodup_typeNames_iff
    (show (custom.generate {}).outcome = .ok _ from rfl) (List.cons_ne_nil _ _)
  refine ⟨rfl, _, rfl, u, ks, hu, hk, hfile, fun hn => ?_⟩
  have hnone : ∀ t ∈ custom.types,
      (({} : Configuration).overridesFor .customFields t.identity).bind (·.className) = none :=
    fun _ _ => rfl
  have hkey := (hdefault hnone).mp hn _ List.mem_cons_self
  exact hkey (by decide)

end SchemaProjection.TypeNames
