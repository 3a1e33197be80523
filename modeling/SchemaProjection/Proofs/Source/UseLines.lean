import SchemaProjection.Proofs.Mapping
import SchemaProjection.Proofs.Source.Derives
import SchemaProjection.Proofs.Source.Faults
import SchemaProjection.Proofs.Text.ByteOrder

namespace SchemaProjection

def Domain.rawTypes : Domain → List SdkType
  | .customFields => [.typeReference, .customFields]
  | .variantAttributes => [.rawAttribute]

namespace Source

variable {c : Configuration} {u : OutputUnit} {classes : List OutputClass}
  {sdkCrate path text line : String} {imports : Imports}

/-- A path that the file of a unit has to import: for the raw data of its domain, or for what is
left of a field's type without the sets around it. -/
inductive Needed (sdkCrate : String) (u : OutputUnit) : String → Prop
  | raw {t : SdkType} (h : t ∈ u.domain.rawTypes) : Needed sdkCrate u (t.importPath sdkCrate)
  | field {cls : OutputClass} {f : OutputField} {path : String} (hcls : cls ∈ u.classes)
    (hf : f ∈ (cls.fieldsClass u.domain).fields)
    (h : path ∈ f.type.shape.leaf.paths sdkCrate) : Needed sdkCrate u path

theorem paths_leaf (shape : Shape) (sdkCrate : String) :
    shape.leaf.paths sdkCrate = shape.paths sdkCrate := by
  induction shape with
  | set nullable element ih => exact ih
  | _ => rfl

def unitPaths (sdkCrate : String) (d : Domain) (classes : List OutputClass) : List String :=
  d.rawTypes.map (·.importPath sdkCrate) ++
    classes.flatMap fun cls => fieldPaths sdkCrate (cls.fieldsClass d).fields

theorem mem_unitPaths_iff :
    path ∈ unitPaths sdkCrate u.domain u.classes ↔ Needed sdkCrate u path := by
  rw [unitPaths, List.mem_append, List.mem_map, List.mem_flatMap]
  simp only [fieldPaths, List.mem_flatMap]
  constructor
  · rintro (⟨t, ht, rfl⟩ | ⟨cls, hcls, f, hf, hpath⟩)
    · exact .raw ht
    · rw [← paths_leaf] at hpath
      exact .field hcls hf hpath
  · rintro (ht | ⟨hcls, hf, hpath⟩)
    · exact .inl ⟨_, ht, rfl⟩
    · rw [paths_leaf] at hpath
      exact .inr ⟨_, hcls, _, hf, hpath⟩

theorem carriersPaths_eq_unitPaths {ks : List CarrierClass}
    (h : carrierClasses [] classes = .ok ks) (sdkCrate : String) :
    carriersPaths sdkCrate ks = unitPaths sdkCrate .customFields classes := by
  have hfields := Outcome.map_eq_map_of_forall₂ (carrierClasses_eq_ok_iff.mp h).1
    fun cls k hk => congrArg (fun r : OutputClass => fieldPaths sdkCrate r.fields) hk.record.symm
  rw [carriersPaths, unitPaths, List.flatMap_def, List.flatMap_def, ← hfields]
  rfl

theorem attributesPaths_eq_unitPaths {as : List AttributesClass}
    (h : attributesClasses classes = .ok as) (sdkCrate : String) :
    attributesPaths sdkCrate as = unitPaths sdkCrate .variantAttributes classes := by
  rw [attributesPaths, unitPaths, ← map_struct_of_attributesClasses h, List.flatMap_map]
  rfl

section Body

def isUseLine (line : String) : Bool :=
  "use ".toList.isPrefixOf line.toList

theorem isUseLine_eq_false_of_front? (h : line.front? ≠ some 'u') : isUseLine line = false :=
  isPrefixOf_eq_false (by decide) h

end Body

section File

variable {ls : List String}

def unitImports (sdkCrate : String) (u : OutputUnit) : Imports :=
  Imports.addAll ∅ (unitPaths sdkCrate u.domain u.classes)

theorem mem_keys_unitImports_iff :
    path ∈ (unitImports sdkCrate u).keys ↔ Needed sdkCrate u path := by
  rw [unitImports, Imports.mem_keys_addAll, mem_unitPaths_iff]
  exact or_iff_left List.not_mem_nil

def linesWith (sdkCrate : String) (u : OutputUnit) (body : List String) : List String :=
  headerLines u.domain u.package ++ useLines (unitImports sdkCrate u) ++ [""] ++ body

theorem fileLines_of_writes {m : Importing (List String)} {body : List String}
    (h : Writes m body (unitPaths sdkCrate u.domain u.classes)) :
    fileLines u m = linesWith sdkCrate u body := by
  rw [fileLines, h ∅]
  rfl

theorem exists_carriersBody (hd : u.domain = .customFields) (h : unitLines sdkCrate u = .ok ls) :
    ∃ ks, carrierClasses [] u.classes = .ok ks ∧ ls = linesWith sdkCrate u (carriersBody ks) := by
  simp only [unitLines_eq_map, unitBody, hd, Outcome.map_eq_ok_iff, exists_exists_and_eq_and] at h
  obtain ⟨ks, hks, rfl⟩ := h
  refine ⟨ks, hks, fileLines_of_writes ?_⟩
  rw [hd, ← carriersPaths_eq_unitPaths hks]
  exact writes_customFieldsLines ks

theorem exists_attributesBody (hd : u.domain = .variantAttributes)
    (h : unitLines sdkCrate u = .ok ls) :
    ∃ as, attributesClasses u.classes = .ok as ∧
      ls = linesWith sdkCrate u (attributesBody as) := by
  simp only [unitLines_eq_map, unitBody, hd, Outcome.map_eq_ok_iff, exists_exists_and_eq_and] at h
  obtain ⟨as, has, rfl⟩ := h
  refine ⟨as, has, fileLines_of_writes ?_⟩
  rw [hd, ← attributesPaths_eq_unitPaths has]
  exact writes_variantAttributesLines as

end File

theorem isUseLine_useLine (path : String) : isUseLine ("use " ++ path ++ ";") = true := by
  rw [isUseLine, String.append_assoc, String.toList_append]
  exact List.isPrefixOf_iff_prefix.mpr (List.prefix_append _ _)

end Source

end SchemaProjection
