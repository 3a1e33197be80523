import SchemaProjection.Proofs.Source.Classes

namespace SchemaProjection

def Projection.domain? : Projection → Option Domain
  | .customFields _ => some .customFields
  | .variantAttributes _ => some .variantAttributes
  | .record => none

def OutputClass.fieldsClass (cls : OutputClass) : Domain → OutputClass
  | .customFields => cls.typedFields
  | .variantAttributes => cls

namespace Source

open Identifier

variable {c : Configuration} {u : OutputUnit} {d : Domain} {before classes : List OutputClass}
  {cls : OutputClass} {e : GenerationError} {modules : List (String × String)}

/-- What the classes of a unit have to be like. -/
structure Writable (d : Domain) (classes : List OutputClass) : Prop where
  projections : ∀ cls ∈ classes, cls.projection.domain? = some d
  modules : d = .customFields → (classes.map fun cls => ofName cls.name).Nodup
  fields : ∀ cls ∈ classes, ((cls.fieldsClass d).fields.map fun f => ofName f.name).Nodup

/-- The error for a class that comes after `before`. Of several faults it is the first in this order
that counts. -/
inductive Fault (d : Domain) (before : List OutputClass) (cls : OutputClass) :
    GenerationError → Prop
  | projection (h : cls.projection.domain? ≠ some d) :
    Fault d before cls (.wrongProjection cls.name d)
  | module {first : OutputClass} (hprojection : cls.projection.domain? = some d)
    (hd : d = .customFields) (hmem : first ∈ before) (h : ofName first.name = ofName cls.name) :
    Fault d before cls (.duplicateModule ⟨ofName cls.name, first.name, cls.name⟩)
  | field {first second : OutputField} (hprojection : cls.projection.domain? = some d)
    (hmodule : d = .customFields → ∀ other ∈ before, ofName other.name ≠ ofName cls.name)
    (h : FirstRepeat (fun f => ofName f.name) (cls.fieldsClass d).fields first second) :
    Fault d before cls
      (.duplicateField (cls.fieldsClass d).name ⟨ofName second.name, first.raw, second.raw⟩)

theorem identifierClash_eq_some_iff {clash : Clash} :
    identifierClash cls = some clash ↔
      ∃ first second, FirstRepeat (fun f => ofName f.name) cls.fields first second ∧
        clash = ⟨ofName second.name, first.raw, second.raw⟩ :=
  Clash.find?_map_eq_some_iff

section CustomFields

def modulesOf (classes : List OutputClass) : List (String × String) :=
  classes.map fun cls => (ofName cls.name, cls.name)

theorem carrierClasses_append (modules : List (String × String)) (xs ys : List OutputClass) :
    carrierClasses modules (xs ++ ys) =
      carrierClasses modules xs >>= fun ks =>
        (carrierClasses ((modulesOf xs).reverse ++ modules) ys).map (ks ++ ·) := by
  induction xs generalizing modules with
  | nil =>
    change _ = Except.map id _
    rw [Except.map_id]
    rfl
  | cons x xs ih =>
    rw [List.cons_append, carrierClasses, carrierClasses]
    cases x.projection with
    | customFields typeKey =>
      dsimp only
      cases modules.lookup (ofName x.name) with
      | some first => rfl
      | none =>
        cases identifierClash x.typedFields with
        | some clash => rfl
        | none =>
          have htaken : (modulesOf (x :: xs)).reverse ++ modules =
              (modulesOf xs).reverse ++ (ofName x.name, x.name) :: modules := by
            simp [modulesOf]
          rw [ih, htaken]
          dsimp only
          cases carrierClasses ((ofName x.name, x.name) :: modules) xs with
          | error e => rfl
          | ok ks =>
            cases carrierClasses
                ((modulesOf xs).reverse ++ (ofName x.name, x.name) :: modules) ys <;> rfl
    | variantAttributes id => rfl
    | record => rfl

theorem exists_carries_iff :
    (∃ k, Carries cls k) ↔
      cls.projection.domain? = some .customFields ∧ identifierClash cls.typedFields = none := by
  constructor
  · rintro ⟨k, h⟩
    exact ⟨by rw [h.typeKey]; rfl, h.fields⟩
  · rintro ⟨hprojection, hclash⟩
    cases hp : cls.projection with
    | customFields typeKey =>
      exact ⟨⟨cls.name, typeKey, ofName cls.name, cls.typedFields⟩, hp, rfl, rfl, rfl, hclash⟩
    | variantAttributes id => simp [hp, Projection.domain?] at hprojection
    | record => simp [hp, Projection.domain?] at hprojection

theorem exists_carrierClasses_eq_ok_iff :
    (∃ ks, carrierClasses [] classes = .ok ks) ↔ Writable .customFields classes := by
  simp only [carrierClasses_eq_ok_iff, exists_and_right, Outcome.exists_forall₂_iff,
    exists_carries_iff, identifierClash_eq_none_iff]
  constructor
  · rintro ⟨h, hmodules⟩
    exact ⟨fun cls hcls => (h cls hcls).1, fun _ => fresh_nil_iff.mp hmodules,
      fun cls hcls => (h cls hcls).2⟩
  · intro h
    exact ⟨fun cls hcls => ⟨h.projections cls hcls, h.fields cls hcls⟩,
      fresh_nil_iff.mpr (h.modules rfl)⟩

theorem lookup_modulesOf_eq_some_iff (h : (before.map fun cls => ofName cls.name).Nodup)
    {module first : String} :
    (modulesOf before).reverse.lookup module = some first ↔
      ∃ other ∈ before, ofName other.name = module ∧ other.name = first := by
  have hnodup : ((modulesOf before).reverse.map (·.1)).Nodup := by
    rw [List.map_reverse, List.nodup_reverse, modulesOf, List.map_map]
    exact h
  rw [lookup_eq_some_iff_mem hnodup, List.mem_reverse, modulesOf, List.mem_map]
  simp only [Prod.mk.injEq]

theorem carrierClasses_singleton_eq_error_iff :
    carrierClasses modules [cls] = .error e ↔
      (cls.projection.domain? ≠ some .customFields ∧ e = .wrongProjection cls.name .customFields) ∨
      (cls.projection.domain? = some .customFields ∧
        ((∃ first, modules.lookup (ofName cls.name) = some first ∧
            e = .duplicateModule ⟨ofName cls.name, first, cls.name⟩) ∨
          (modules.lookup (ofName cls.name) = none ∧
            ∃ clash, identifierClash cls.typedFields = some clash ∧
              e = .duplicateField cls.typedFields.name clash))) := by
  rw [carrierClasses]
  cases cls.projection with
  | customFields typeKey =>
    dsimp only
    cases modules.lookup (ofName cls.name) with
    | some first => simp [Projection.domain?, eq_comm]
    | none =>
      cases identifierClash cls.typedFields with
      | some clash => simp [Projection.domain?, eq_comm]
      | none => simp [Projection.domain?, carrierClasses, Except.map]
  | variantAttributes id => simp [Projection.domain?, eq_comm]
  | record => simp [Projection.domain?, eq_comm]

theorem carrierClasses_singleton_eq_error_iff_fault
    (h : (before.map fun cls => ofName cls.name).Nodup) :
    carrierClasses (modulesOf before).reverse [cls] = .error e ↔
      Fault .customFields before cls e := by
  have hlookup (first : String) := @lookup_modulesOf_eq_some_iff before h (ofName cls.name) first
  have hnone : (modulesOf before).reverse.lookup (ofName cls.name) = none ↔
      ∀ other ∈ before, ofName other.name ≠ ofName cls.name := by
    rw [lookup_eq_none_iff_notMem]
    simp [modulesOf]
  rw [carrierClasses_singleton_eq_error_iff]
  simp only [hlookup, hnone, identifierClash_eq_some_iff]
  constructor
  · rintro (⟨hp, rfl⟩ | ⟨hp, ⟨_, ⟨first, hmem, hsame, rfl⟩, rfl⟩ |
      ⟨hnew, _, ⟨first, second, hrepeat, rfl⟩, rfl⟩⟩)
    · exact .projection hp
    · exact .module hp rfl hmem hsame
    · exact .field hp (fun _ => hnew) hrepeat
  · rintro (hp | ⟨hp, -, hmem, hsame⟩ | ⟨hp, hnew, hrepeat⟩)
    · exact .inl ⟨hp, rfl⟩
    · exact .inr ⟨hp, .inl ⟨_, ⟨_, hmem, hsame, rfl⟩, rfl⟩⟩
    · exact .inr ⟨hp, .inr ⟨hnew rfl, _, ⟨_, _, hrepeat, rfl⟩, rfl⟩⟩

theorem carrierClasses_eq_error_iff :
    carrierClasses [] classes = .error e ↔
      ∃ before cls after, classes = before ++ cls :: after ∧ Writable .customFields before ∧
        Fault .customFields before cls e := by
  have hcheck (classes : List OutputClass) :
      ((carrierClasses [] classes).map fun _ => ()) = .ok () ↔ Writable .customFields classes := by
    rw [← exists_carrierClasses_eq_ok_iff]
    cases carrierClasses [] classes <;> simp [Except.map]
  have happend (xs : List OutputClass) (x : OutputClass) :
      ((carrierClasses [] (xs ++ [x])).map fun _ => ()) =
        ((carrierClasses [] xs).map fun _ => ()) >>= fun _ =>
          (carrierClasses (modulesOf xs).reverse [x]).map fun _ => () := by
    rw [carrierClasses_append, List.append_nil]
    cases carrierClasses [] xs with
    | error e => rfl
    | ok ks => cases carrierClasses (modulesOf xs).reverse [x] <;> rfl
  have hscan := @Outcome.scan_eq_error_iff _ _ (fun xs => (carrierClasses [] xs).map fun _ => ())
    (fun xs x => (carrierClasses (modulesOf xs).reverse [x]).map fun _ => ()) rfl happend classes e
  simp only [hcheck, Outcome.map_eq_error_iff] at hscan
  rw [hscan]
  constructor
  · rintro ⟨before, cls, after, hsplit, hbefore, hcls⟩
    exact ⟨before, cls, after, hsplit, hbefore,
      (carrierClasses_singleton_eq_error_iff_fault (hbefore.modules rfl)).mp hcls⟩
  · rintro ⟨before, cls, after, hsplit, hbefore, hcls⟩
    exact ⟨before, cls, after, hsplit, hbefore,
      (carrierClasses_singleton_eq_error_iff_fault (hbefore.modules rfl)).mpr hcls⟩

end CustomFields

section VariantAttributes

theorem exists_ofClass_eq_ok_iff :
    (∃ a, AttributesClass.ofClass cls = .ok a) ↔
      cls.projection.domain? = some .variantAttributes ∧ identifierClash cls = none := by
  rw [AttributesClass.ofClass]
  cases cls.projection with
  | variantAttributes id => cases identifierClash cls <;> simp [Projection.domain?]
  | customFields typeKey => simp [Projection.domain?]
  | record => simp [Projection.domain?]

theorem ofClass_eq_error_iff :
    AttributesClass.ofClass cls = .error e ↔ Fault .variantAttributes before cls e := by
  have herror : AttributesClass.ofClass cls = .error e ↔
      (cls.projection.domain? ≠ some .variantAttributes ∧
        e = .wrongProjection cls.name .variantAttributes) ∨
      (cls.projection.domain? = some .variantAttributes ∧
        ∃ clash, identifierClash cls = some clash ∧ e = .duplicateField cls.name clash) := by
    rw [AttributesClass.ofClass]
    cases cls.projection with
    | variantAttributes id => cases identifierClash cls <;> simp [Projection.domain?, eq_comm]
    | customFields typeKey => simp [Projection.domain?, eq_comm]
    | record => simp [Projection.domain?, eq_comm]
  rw [herror]
  simp only [identifierClash_eq_some_iff]
  constructor
  · rintro (⟨hp, rfl⟩ | ⟨hp, _, ⟨first, second, hrepeat, rfl⟩, rfl⟩)
    · exact .projection hp
    · exact .field hp (fun hd => absurd hd (by decide)) hrepeat
  · rintro (hp | ⟨-, hd, -, -⟩ | ⟨hp, -, hrepeat⟩)
    · exact .inl ⟨hp, rfl⟩
    · cases hd
    · exact .inr ⟨hp, _, ⟨_, _, hrepeat, rfl⟩, rfl⟩

theorem writable_variantAttributes_iff :
    Writable .variantAttributes classes ↔
      ∀ cls ∈ classes, ∃ a, AttributesClass.ofClass cls = .ok a := by
  simp only [exists_ofClass_eq_ok_iff, identifierClash_eq_none_iff]
  constructor
  · exact fun h cls hcls => ⟨h.projections cls hcls, h.fields cls hcls⟩
  · exact fun h => ⟨fun cls hcls => (h cls hcls).1, fun hd => absurd hd (by decide),
      fun cls hcls => (h cls hcls).2⟩

theorem exists_attributesClasses_eq_ok_iff :
    (∃ as, attributesClasses classes = .ok as) ↔ Writable .variantAttributes classes := by
  rw [attributesClasses_eq_mapM, Outcome.exists_mapM_eq_ok_iff, writable_variantAttributes_iff]

theorem attributesClasses_eq_error_iff :
    attributesClasses classes = .error e ↔
      ∃ before cls after, classes = before ++ cls :: after ∧ Writable .variantAttributes before ∧
        Fault .variantAttributes before cls e := by
  rw [attributesClasses_eq_mapM, Outcome.mapM_eq_error_iff]
  simp only [writable_variantAttributes_iff]
  constructor
  · rintro ⟨before, cls, after, hsplit, hbefore, hcls⟩
    exact ⟨before, cls, after, hsplit, hbefore, ofClass_eq_error_iff.mp hcls⟩
  · rintro ⟨before, cls, after, hsplit, hbefore, hcls⟩
    exact ⟨before, cls, after, hsplit, hbefore, ofClass_eq_error_iff.mpr hcls⟩

end VariantAttributes

/-- A unit is written unless some class has a fault, and then it is refused for the first class that
has one: for its projection, or else for its module, or else for two of its fields. -/
theorem render_finds_first_fault (c : Configuration) (u : OutputUnit) :
    ((∃ text, render c u = .ok text) ↔ Writable u.domain u.classes) ∧
    ∀ e, render c u = .error e ↔
      ∃ before cls after, u.classes = before ++ cls :: after ∧ Writable u.domain before ∧
        Fault u.domain before cls e := by
  obtain ⟨domain, package, classes⟩ := u
  simp only [render_eq_map, unitBody, Outcome.exists_map_eq_ok_iff, Outcome.map_eq_error_iff]
  cases domain with
  | customFields =>
    simp only [Outcome.exists_map_eq_ok_iff, Outcome.map_eq_error_iff]
    exact ⟨exists_carrierClasses_eq_ok_iff, fun e => carrierClasses_eq_error_iff⟩
  | variantAttributes =>
    simp only [Outcome.exists_map_eq_ok_iff, Outcome.map_eq_error_iff]
    exact ⟨exists_attributesClasses_eq_ok_iff, fun e => attributesClasses_eq_error_iff⟩

end Source

end SchemaProjection
