import SchemaProjection.Proofs.Clash
import SchemaProjection.Proofs.Outcome
import SchemaProjection.Source.File

namespace SchemaProjection.Source

variable {c : Configuration} {u : OutputUnit} {cls : OutputClass} {classes : List OutputClass}
  {e : GenerationError}

theorem identifierClash_eq_none_iff :
    identifierClash cls = none ↔
      (cls.fields.map fun f => Identifier.ofName f.name).Nodup := by
  rw [identifierClash, Clash.find?_nil_eq_none_iff, List.map_map]
  rfl

/-- Two fields of the class, at different places, have one identifier. -/
def SharesIdentifier (cls : OutputClass) : Prop :=
  ∃ (i j : Nat) (f g : OutputField), i < j ∧ cls.fields[i]? = some f ∧
    cls.fields[j]? = some g ∧ Identifier.ofName f.name = Identifier.ofName g.name

theorem identifierClash_eq_none_iff_not_sharesIdentifier :
    identifierClash cls = none ↔ ¬ SharesIdentifier cls := by
  rw [identifierClash_eq_none_iff, List.Nodup, List.pairwise_map, List.pairwise_iff_getElem]
  constructor
  · rintro h ⟨i, j, f, g, hij, hf, hg, he⟩
    obtain ⟨hi, rfl⟩ := List.getElem?_eq_some_iff.mp hf
    obtain ⟨hj, rfl⟩ := List.getElem?_eq_some_iff.mp hg
    exact h i j hi hj hij he
  · intro h i j hi hj hij he
    exact h ⟨i, j, _, _, hij, List.getElem?_eq_getElem hi, List.getElem?_eq_getElem hj, he⟩

def AttributesClass.ofClass (cls : OutputClass) : Except GenerationError AttributesClass :=
  match cls.projection with
  | .variantAttributes productTypeId =>
    match identifierClash cls with
    | some clash => .error (.duplicateField cls.name clash)
    | none => .ok ⟨productTypeId, cls⟩
  | _ => .error (.wrongProjection cls.name .variantAttributes)

theorem attributesClasses_eq_mapM (classes : List OutputClass) :
    attributesClasses classes = classes.mapM AttributesClass.ofClass := by
  induction classes with
  | nil => rfl
  | cons cls classes ih =>
    rw [attributesClasses, List.mapM_cons, AttributesClass.ofClass, ih]
    cases cls.projection with
    | variantAttributes productTypeId =>
      cases identifierClash cls with
      | some clash => rfl
      | none => cases classes.mapM AttributesClass.ofClass <;> rfl
    | customFields typeKey => rfl
    | record => rfl

theorem AttributesClass.ofClass_eq_ok_iff {a : AttributesClass} :
    ofClass cls = .ok a ↔
      cls.projection = .variantAttributes a.productTypeId ∧ identifierClash cls = none ∧
        a.struct = cls := by
  obtain ⟨id, struct⟩ := a
  rw [ofClass]
  split
  next productTypeId hp =>
    cases identifierClash cls <;> simp [hp, eq_comm]
  next hp =>
    simp only [reduceCtorEq, false_iff, not_and]
    intro h
    exact absurd h (hp id)

theorem AttributesClass.ofClass_eq_error {id : String} (hp : cls.projection = .variantAttributes id)
    (h : ofClass cls = .error e) :
    ∃ clash, identifierClash cls = some clash ∧ e = .duplicateField cls.name clash := by
  rw [ofClass, hp] at h
  cases hc : identifierClash cls with
  | none => simp [hc] at h
  | some clash =>
    simp only [hc, Except.error.injEq] at h
    exact ⟨clash, rfl, h.symm⟩

theorem attributesClasses_eq_ok_iff {as : List AttributesClass} :
    attributesClasses classes = .ok as ↔
      List.Forall₂ (fun cls a => cls.projection = .variantAttributes a.productTypeId ∧
        identifierClash cls = none ∧ a.struct = cls) classes as := by
  rw [attributesClasses_eq_mapM, Outcome.mapM_eq_ok_iff]
  simp only [AttributesClass.ofClass_eq_ok_iff]

theorem map_struct_of_attributesClasses {as : List AttributesClass}
    (h : attributesClasses classes = .ok as) : as.map (·.struct) = classes := by
  have hc := Outcome.map_eq_map_of_forall₂ (attributesClasses_eq_ok_iff.mp h)
    fun _ _ ha => ha.2.2.symm
  exact hc.symm.trans (List.map_id' classes)

theorem exists_clash_of_attributesClasses
    (hp : ∀ cls ∈ classes, ∃ id, cls.projection = .variantAttributes id)
    (h : attributesClasses classes = .error e) :
    ∃ cls ∈ classes, ∃ clash, identifierClash cls = some clash ∧
      e = .duplicateField cls.name clash := by
  rw [attributesClasses_eq_mapM, Outcome.mapM_eq_error_iff] at h
  obtain ⟨before, cls, after, rfl, -, hcls⟩ := h
  have hmem : cls ∈ before ++ cls :: after := List.mem_append_right _ List.mem_cons_self
  obtain ⟨id, hid⟩ := hp cls hmem
  exact ⟨cls, hmem, AttributesClass.ofClass_eq_error hid hcls⟩

structure Carries (cls : OutputClass) (k : CarrierClass) : Prop where
  typeKey : cls.projection = .customFields k.typeKey
  name : k.name = cls.name
  module : k.module = Identifier.ofName cls.name
  record : k.record = cls.typedFields
  fields : identifierClash cls.typedFields = none

/-- `modules` are those of the classes before. -/
theorem carrierClasses_eq_ok_iff {modules : List (String × String)} {ks : List CarrierClass} :
    carrierClasses modules classes = .ok ks ↔
      List.Forall₂ Carries classes ks ∧
        Fresh (modules.map (·.1)) (classes.map fun cls => Identifier.ofName cls.name) := by
  induction classes generalizing modules ks with
  | nil =>
    rw [carrierClasses, Except.ok.injEq, List.forall₂_nil_left_iff]
    constructor
    · rintro rfl
      exact ⟨rfl, fresh_nil⟩
    · rintro ⟨rfl, -⟩
      rfl
  | cons cls classes ih =>
    rw [carrierClasses, List.map_cons, fresh_cons_iff, List.forall₂_cons_left_iff]
    constructor
    · intro h
      cases hp : cls.projection with
      | customFields typeKey =>
        cases hm : modules.lookup (Identifier.ofName cls.name) with
        | some first => simp [hp, hm] at h
        | none =>
          cases hi : identifierClash cls.typedFields with
          | some clash => simp [hp, hm, hi] at h
          | none =>
            simp only [hp, hm, hi, Outcome.map_eq_ok_iff] at h
            obtain ⟨rest, hr, rfl⟩ := h
            obtain ⟨hf, hd⟩ := ih.mp hr
            exact ⟨⟨_, rest, ⟨hp, rfl, rfl, rfl, hi⟩, hf, rfl⟩,
              lookup_eq_none_iff_notMem.mp hm, hd⟩
      | variantAttributes productTypeId => simp [hp] at h
      | record => simp [hp] at h
    · rintro ⟨⟨k, rest, hk, hf, rfl⟩, hm, hd⟩
      have hrest : carrierClasses ((Identifier.ofName cls.name, cls.name) :: modules) classes =
          .ok rest := ih.mpr ⟨hf, hd⟩
      obtain ⟨name, typeKey, module, record⟩ := k
      obtain ⟨hp, rfl, rfl, rfl, hi⟩ := hk
      simp only [hp, lookup_eq_none_iff_notMem.mpr hm, hi, hrest]
      rfl

/-- Where no module comes twice only a field can be in the way: the first record with two fields
of one identifier decides the error. -/
theorem exists_clash_of_carrierClasses {modules : List (String × String)}
    (hp : ∀ cls ∈ classes, ∃ key, cls.projection = .customFields key)
    (h : carrierClasses modules classes = .error e)
    (hm : Fresh (modules.map (·.1)) (classes.map fun cls => Identifier.ofName cls.name)) :
    ∃ cls ∈ classes, ∃ clash, identifierClash cls.typedFields = some clash ∧
      e = .duplicateField cls.typedFields.name clash := by
  induction classes generalizing modules with
  | nil => cases h
  | cons cls classes ih =>
    obtain ⟨⟨key, hkey⟩, hkeys⟩ := List.forall_mem_cons.mp hp
    rw [List.map_cons, fresh_cons_iff] at hm
    rw [carrierClasses, hkey] at h
    simp only [lookup_eq_none_iff_notMem.mpr hm.1] at h
    cases hi : identifierClash cls.typedFields with
    | some clash =>
      simp only [hi, Except.error.injEq] at h
      exact ⟨cls, List.mem_cons_self, clash, hi, h.symm⟩
    | none =>
      simp only [hi, Outcome.map_eq_error_iff] at h
      obtain ⟨d, hd, hclash⟩ := ih hkeys h hm.2
      exact ⟨d, List.mem_cons_of_mem cls hd, hclash⟩

def unitBody (sdkCrate : String) (u : OutputUnit) :
    Except GenerationError (Importing (List String)) :=
  match u.domain with
  | .customFields => (carrierClasses [] u.classes).map (customFieldsLines sdkCrate)
  | .variantAttributes => (attributesClasses u.classes).map (variantAttributesLines sdkCrate)

def fileLines (u : OutputUnit) (body : Importing (List String)) : List String :=
  headerLines u.domain u.package ++ useLines (body.run ∅).2 ++ [""] ++ (body.run ∅).1

def fileText (u : OutputUnit) (body : Importing (List String)) : String :=
  ofLines (headerLines u.domain u.package ++ useLines (body.run ∅).2 ++ [""] ++ (body.run ∅).1)

theorem unitLines_eq_map (sdkCrate : String) (u : OutputUnit) :
    unitLines sdkCrate u = (unitBody sdkCrate u).map (fileLines u) := by
  obtain ⟨domain, package, classes⟩ := u
  rw [unitLines, unitBody]
  cases domain with
  | customFields => cases carrierClasses [] classes <;> rfl
  | variantAttributes => cases attributesClasses classes <;> rfl

theorem render_eq_map (c : Configuration) (u : OutputUnit) :
    render c u = (unitBody c.sdkCrate u).map (fileText u) := by
  rw [render, unitLines_eq_map]
  cases unitBody c.sdkCrate u <;> rfl

theorem render_eq_ok_iff_carrierClasses (hd : u.domain = .customFields) {text : String} :
    render c u = .ok text ↔
      ∃ ks, carrierClasses [] u.classes = .ok ks ∧
        fileText u (customFieldsLines c.sdkCrate ks) = text := by
  rw [render_eq_map, unitBody, hd]
  simp only [Outcome.map_eq_ok_iff, exists_exists_and_eq_and]

theorem render_eq_ok_iff_attributesClasses (hd : u.domain = .variantAttributes) {text : String} :
    render c u = .ok text ↔
      ∃ as, attributesClasses u.classes = .ok as ∧
        fileText u (variantAttributesLines c.sdkCrate as) = text := by
  rw [render_eq_map, unitBody, hd]
  simp only [Outcome.map_eq_ok_iff, exists_exists_and_eq_and]

theorem render_eq_error_iff_carrierClasses (hd : u.domain = .customFields) :
    render c u = .error e ↔ carrierClasses [] u.classes = .error e := by
  rw [render_eq_map, unitBody, hd, Outcome.map_eq_error_iff, Outcome.map_eq_error_iff]

theorem render_eq_error_iff_attributesClasses (hd : u.domain = .variantAttributes) :
    render c u = .error e ↔ attributesClasses u.classes = .error e := by
  rw [render_eq_map, unitBody, hd, Outcome.map_eq_error_iff, Outcome.map_eq_error_iff]

end SchemaProjection.Source
