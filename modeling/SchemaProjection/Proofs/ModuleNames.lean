import SchemaProjection.Proofs.Assembly
import SchemaProjection.Proofs.Source.Classes
import SchemaProjection.Proofs.ValidNames

namespace SchemaProjection.ModuleNames

open Identifier Source Text

variable {c : Configuration} {ts : List CustomFieldType} {u : OutputUnit} {a b stem : String}

theorem toList_defaultClassName (stem : String) :
    (Domain.customFields.defaultClassName stem).toList =
      'T' :: ("yped".toList ++ stem.toList ++ "Fields".toList) := by
  rw [Domain.defaultClassName, String.toList_append, String.toList_append]
  rfl

theorem isAlphanum_around (h : ∀ x ∈ stem.toList, x.isAlphanum = true) :
    ∀ x ∈ "yped".toList ++ stem.toList ++ "Fields".toList, x.isAlphanum = true := by
  rw [List.forall_mem_append, List.forall_mem_append]
  exact ⟨⟨List.all_eq_true.mp rfl, h⟩, List.all_eq_true.mp rfl⟩

theorem snakeCase_defaultClassName_notMem (stem : String) :
    snakeCase (Domain.customFields.defaultClassName stem) ∉ ["crate", "self", "super"] := by
  have hhead : ∀ k ∈ ["crate", "self", "super"], k.toList.head? ≠ some 't' := by
    decide
  intro hm
  apply hhead _ hm
  rw [snakeCase, String.toList_ofList, toList_defaultClassName, snakeFrom_none_cons]
  rfl

theorem ofName_defaultClassName_inj (ha : ∀ x ∈ a.toList, x.isAlphanum = true)
    (hb : ∀ x ∈ b.toList, x.isAlphanum = true) :
    ofName (Domain.customFields.defaultClassName a) =
        ofName (Domain.customFields.defaultClassName b) ↔ a = b := by
  rw [ofName_eq_ofName_iff (isIdentifier_defaultClassName .customFields ha)
    (isIdentifier_defaultClassName .customFields hb)]
  constructor
  · rintro (h | ⟨k, hk, ⟨he, -⟩ | ⟨he, -⟩⟩)
    · have hs := String.ofList_injective h
      rw [toList_defaultClassName, toList_defaultClassName,
        snakeFrom_cons_inj (by decide) (isAlphanum_around ha) (isAlphanum_around hb),
        List.append_left_inj, List.append_right_inj] at hs
      exact String.toList_injective hs
    · exact absurd (he ▸ hk) (snakeCase_defaultClassName_notMem a)
    · exact absurd (he ▸ hk) (snakeCase_defaultClassName_notMem b)
  · rintro rfl
    exact .inl rfl

theorem exists_stem_of_assemble (h : (assembleCustomFields c ts).outcome = .ok u)
    (hd : ∀ t ∈ ts, (c.overridesFor .customFields t.identity).bind (·.className) = none)
    {name : String} (hn : name ∈ u.classes.map (·.name)) :
    ∃ stem : String, (∀ x ∈ stem.toList, x.isAlphanum = true) ∧
      name = Domain.customFields.defaultClassName stem := by
  obtain ⟨-, hc, -, -, -⟩ := assembleCustomFields_eq_ok_iff.mp h
  obtain ⟨cls, hcls, rfl⟩ := List.mem_map.mp hn
  obtain ⟨t, ht, hs⟩ := Outcome.exists_of_mem_forall₂ hc hcls
  obtain ⟨name, fields, hname, -, -, rfl⟩ := CustomFieldType.synthesize_eq_ok_iff.mp hs
  exact ⟨_, isAlphanum_of_mem_pascalCase _, Configuration.className_of_default (hd t ht) hname⟩

/-- Classes of different names have different modules. -/
theorem nodup_modules_of_assemble (h : (assembleCustomFields c ts).outcome = .ok u)
    (hd : ∀ t ∈ ts, (c.overridesFor .customFields t.identity).bind (·.className) = none) :
    (u.classes.map fun cls => ofName cls.name).Nodup := by
  have hn := (assembleCustomFields_eq_ok_iff.mp h).2.2.1
  have hmap : u.classes.map (fun cls => ofName cls.name) =
      (u.classes.map (·.name)).map ofName := by
    rw [List.map_map]
    rfl
  rw [hmap]
  refine hn.map_on fun x hx y hy he => ?_
  obtain ⟨p, hp, rfl⟩ := exists_stem_of_assemble h hd hx
  obtain ⟨q, hq, rfl⟩ := exists_stem_of_assemble h hd hy
  rw [(ofName_defaultClassName_inj hp hq).mp he]

theorem projection_of_assemble (h : (assembleCustomFields c ts).outcome = .ok u) :
    ∀ cls ∈ u.classes,
      (∃ key, cls.projection = .customFields key) ∧ cls.typedFields.name = "Fields" := by
  intro cls hcls
  obtain ⟨t, -, ht⟩ := Outcome.exists_of_mem_forall₂ (assembleCustomFields_eq_ok_iff.mp h).2.1 hcls
  obtain ⟨name, fields, -, -, -, rfl⟩ := CustomFieldType.synthesize_eq_ok_iff.mp ht
  exact ⟨⟨_, rfl⟩, rfl⟩

/-- Where all class names are derived from keys, a unit of custom fields cannot be written exactly
when some record has two fields of one identifier. The error says so, and is never that two classes
have one module or that a class is none of custom fields. -/
theorem render_fails_iff_sharesIdentifier (h : (assembleCustomFields c ts).outcome = .ok u)
    (hd : ∀ t ∈ ts, (c.overridesFor .customFields t.identity).bind (·.className) = none)
    (c' : Configuration) :
    (∀ clash, render c' u ≠ .error (.duplicateModule clash)) ∧
    (∀ name domain, render c' u ≠ .error (.wrongProjection name domain)) ∧
    (∀ e, render c' u = .error e → ∃ cls ∈ u.classes, ∃ clash,
      identifierClash cls.typedFields = some clash ∧ e = .duplicateField "Fields" clash) ∧
    ((∃ e, render c' u = .error e) ↔ ∃ cls ∈ u.classes, SharesIdentifier cls.typedFields) := by
  have hdom := (assembleCustomFields_eq_ok_iff.mp h).2.2.2.1
  have hproj := projection_of_assemble h
  have herror (e : GenerationError) (he : render c' u = .error e) : ∃ cls ∈ u.classes, ∃ clash,
      identifierClash cls.typedFields = some clash ∧ e = .duplicateField "Fields" clash := by
    obtain ⟨cls, hcls, clash, hsome, rfl⟩ :=
      exists_clash_of_carrierClasses (fun cls hcls => (hproj cls hcls).1)
        ((render_eq_error_iff_carrierClasses hdom).mp he)
        (fresh_nil_iff.mpr (nodup_modules_of_assemble h hd))
    exact ⟨cls, hcls, clash, hsome, by rw [(hproj cls hcls).2]⟩
  refine ⟨fun clash he => ?_, fun name domain he => ?_, herror, ?_, ?_⟩
  · obtain ⟨_, -, _, -, hne⟩ := herror _ he
    cases hne
  · obtain ⟨_, -, _, -, hne⟩ := herror _ he
    cases hne
  · rintro ⟨e, he⟩
    obtain ⟨cls, hcls, clash, hsome, -⟩ := herror e he
    refine ⟨cls, hcls, ?_⟩
    by_contra hn
    rw [identifierClash_eq_none_iff_not_sharesIdentifier.mpr hn] at hsome
    cases hsome
  · rintro ⟨cls, hcls, hs⟩
    cases hr : render c' u with
    | error e => exact ⟨e, rfl⟩
    | ok text =>
      obtain ⟨ks, hks, -⟩ := (render_eq_ok_iff_carrierClasses hdom).mp hr
      obtain ⟨k, -, hk⟩ :=
        Outcome.exists_of_mem_forall₂ (carrierClasses_eq_ok_iff.mp hks).1.flip hcls
      exact absurd hs (identifierClash_eq_none_iff_not_sharesIdentifier.mp hk.fields)

/-- The first two types have names that only the case of one letter tells apart. The last has two
fields of different names, but of one identifier. -/
def lettered : List CustomFieldType :=
  [{ id := "1", key := "ab" }, { id := "2", key := "a-b" },
   { id := "3", key := "3d", fields :=
      [{ name := "sizeUnit", type := .string }, { name := "size_unit", type := .enum }] }]

theorem render_fails_lettered :
    ∃ u, (assembleCustomFields {} lettered).outcome = .ok u ∧
      u.classes.map (·.name) = ["TypedAbFields", "TypedABFields", "Typed3dFields"] ∧
      ∃ e, render {} u = .error e := by
  refine ⟨_, rfl, rfl, ?_⟩
  have h := render_fails_iff_sharesIdentifier
    (show (assembleCustomFields {} lettered).outcome = .ok _ from rfl) (fun _ _ => rfl) {}
  exact h.2.2.2.mpr ⟨_, .tail _ (.tail _ List.mem_cons_self), 0, 1, _, _, by decide, rfl, rfl,
    by decide +kernel⟩

end SchemaProjection.ModuleNames
