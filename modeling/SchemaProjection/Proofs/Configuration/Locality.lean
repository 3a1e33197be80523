import SchemaProjection.Proofs.Configuration.Slots
import SchemaProjection.Proofs.ValidNames

namespace SchemaProjection.Configuration

open Identifier Text

variable {c : Configuration} {domain other : Domain} {key raw raw' name : String}
  {entity : Identity}

def withFieldName (c : Configuration) (domain : Domain) (key raw name : String) : Configuration :=
  match domain with
  | .customFields => c.apply (.customFieldName key raw name)
  | .variantAttributes => c.apply (.attributeName key raw name)

/-- The entry under `key` is the one for the entity. An entry under the key of an entity hides the
one under its id. -/
def Selects (c : Configuration) (domain : Domain) (entity : Identity) (key : String) : Prop :=
  entity.key = key ∨ entity.key ∉ (c.overridesIn domain).keys ∧ entity.id = key

section Lookup

theorem overridesIn_withFieldName (c : Configuration) (domain : Domain) (key raw name : String) :
    (c.withFieldName domain key raw name).overridesIn domain =
      (c.overridesIn domain).update key {} (·.nameField raw name) := by
  cases domain <;> rfl

theorem overridesFor_withFieldName_of_ne (h : other ≠ domain) :
    (c.withFieldName domain key raw name).overridesFor other entity =
      c.overridesFor other entity := by
  cases domain <;> cases other <;> first | rfl | exact absurd rfl h

theorem overridesFor_of_selects (hkey : key ∈ (c.overridesIn domain).keys)
    (h : c.Selects domain entity key) :
    c.overridesFor domain entity = (c.overridesIn domain).get? key := by
  obtain ⟨o, ho⟩ := KeyMap.mem_keys_iff_exists.mp hkey
  rw [overridesFor]
  obtain rfl | ⟨hmissing, rfl⟩ := h
  · rw [ho]
    rfl
  · rw [KeyMap.get?_eq_none_iff.mpr hmissing]
    rfl

/-- No entity gets an entry that had none, so nothing is hidden that was found before. -/
theorem mem_keys_withFieldName (hkey : key ∈ (c.overridesIn domain).keys) {k : String} :
    k ∈ ((c.withFieldName domain key raw name).overridesIn domain).keys ↔
      k ∈ (c.overridesIn domain).keys := by
  rw [overridesIn_withFieldName, KeyMap.update, KeyMap.mem_keys_insert, or_iff_right_iff_imp]
  rintro rfl
  exact hkey

theorem overridesFor_withFieldName_of_selects (hkey : key ∈ (c.overridesIn domain).keys)
    (h : c.Selects domain entity key) :
    (c.withFieldName domain key raw name).overridesFor domain entity =
      (c.overridesFor domain entity).map (·.nameField raw name) := by
  have h' : (c.withFieldName domain key raw name).Selects domain entity key := by
    rwa [Selects, mem_keys_withFieldName hkey]
  obtain ⟨o, ho⟩ := KeyMap.mem_keys_iff_exists.mp hkey
  rw [overridesFor_of_selects ((mem_keys_withFieldName hkey).mpr hkey) h',
    overridesFor_of_selects hkey h, overridesIn_withFieldName, KeyMap.get?_update, if_pos rfl, ho]
  rfl

theorem overridesFor_withFieldName_of_not_selects (h : ¬ c.Selects domain entity key) :
    (c.withFieldName domain key raw name).overridesFor domain entity =
      c.overridesFor domain entity := by
  rw [Selects, not_or, not_and] at h
  obtain ⟨hkey, hid⟩ := h
  rw [overridesFor, overridesFor, overridesIn_withFieldName, KeyMap.get?_update, if_neg hkey,
    KeyMap.get?_update]
  by_cases hmissing : entity.key ∈ (c.overridesIn domain).keys
  · obtain ⟨o, ho⟩ := KeyMap.mem_keys_iff_exists.mp hmissing
    rw [ho]
    rfl
  · rw [if_neg (hid hmissing)]

theorem bind_overridesFor_withFieldName {α : Type} {f : Overrides → Option α}
    (hf : ∀ o, f (o.nameField raw name) = f o) (hkey : key ∈ (c.overridesIn domain).keys)
    (other : Domain) (entity : Identity) :
    ((c.withFieldName domain key raw name).overridesFor other entity).bind f =
      (c.overridesFor other entity).bind f := by
  by_cases hother : other = domain
  · subst hother
    by_cases h : c.Selects other entity key
    · rw [overridesFor_withFieldName_of_selects hkey h, Option.bind_map]
      exact congrArg _ (funext hf)
    · rw [overridesFor_withFieldName_of_not_selects h]
  · rw [overridesFor_withFieldName_of_ne hother]

end Lookup

section Names

theorem bind_fields_withFieldName (hkey : key ∈ (c.overridesIn domain).keys)
    (h : ¬ (other = domain ∧ raw' = raw ∧ c.Selects domain entity key)) :
    ((c.withFieldName domain key raw name).overridesFor other entity).bind (·.fields.get? raw') =
      (c.overridesFor other entity).bind (·.fields.get? raw') := by
  by_cases hraw : raw' = raw
  · by_cases hother : other = domain
    · subst hother
      have hselects : ¬ c.Selects other entity key := fun hs => h ⟨rfl, hraw, hs⟩
      rw [overridesFor_withFieldName_of_not_selects hselects]
    · rw [overridesFor_withFieldName_of_ne hother]
  · exact bind_overridesFor_withFieldName
      (fun o => KeyMap.get?_insert_of_ne o.fields name hraw) hkey other entity

theorem fieldName_withFieldName_of_selects (hkey : key ∈ (c.overridesIn domain).keys)
    (h : c.Selects domain entity key) (raw name : String) :
    (c.withFieldName domain key raw name).fieldName domain entity raw =
      checkName .fieldName entity name := by
  obtain ⟨o, ho⟩ := KeyMap.mem_keys_iff_exists.mp hkey
  rw [fieldName, overridesFor_withFieldName_of_selects hkey h, overridesFor_of_selects hkey h, ho,
    Option.map_some, Option.bind_some, Overrides.nameField, KeyMap.get?_insert_self,
    Option.getD_some]

/-- A name for a field under an entry that is there changes the name of that field, and of its
constant, for the entities of the entry. Everything else stays as it is. -/
theorem withFieldName_local (hkey : key ∈ (c.overridesIn domain).keys) (raw name : String)
    (entity : Identity) :
    (∀ other, (c.withFieldName domain key raw name).className other entity =
      c.className other entity) ∧
    (∀ raw' flag, (c.withFieldName domain key raw name).isRequired entity raw' flag =
      c.isRequired entity raw' flag) ∧
    (∀ other raw', ¬ (other = domain ∧ raw' = raw ∧ c.Selects domain entity key) →
      (c.withFieldName domain key raw name).fieldName other entity raw' =
        c.fieldName other entity raw' ∧
      (c.withFieldName domain key raw name).constantName other entity raw' =
        c.constantName other entity raw') ∧
    (c.Selects domain entity key →
      (IsPlain name →
        (c.withFieldName domain key raw name).fieldName domain entity raw = .ok name ∧
        (c.withFieldName domain key raw name).constantName domain entity raw =
          .ok (upperSnakeCase name)) ∧
      (¬ IsPlain name →
        (c.withFieldName domain key raw name).fieldName domain entity raw =
          .error (.invalidIdentifier .fieldName name entity.key) ∧
        (c.withFieldName domain key raw name).constantName domain entity raw =
          .error (.invalidIdentifier .fieldName name entity.key))) := by
  refine ⟨fun other => ?_, fun raw' flag => ?_, fun other raw' h => ?_, fun h => ⟨?_, ?_⟩⟩
  · rw [className, className, bind_overridesFor_withFieldName (fun _ => rfl) hkey]
  · rw [isRequired, isRequired, bind_overridesFor_withFieldName (fun _ => rfl) hkey]
  · have hname : (c.withFieldName domain key raw name).fieldName other entity raw' =
        c.fieldName other entity raw' := by
      rw [fieldName, fieldName, bind_fields_withFieldName hkey h]
    rw [constantName_eq_map, constantName_eq_map, hname]
    exact ⟨rfl, rfl⟩
  · intro hplain
    have hname := fieldName_withFieldName_of_selects hkey h raw name
    rw [checkName_eq_ok_iff.mpr ⟨isIdentifier_iff_isPlain.mpr hplain, rfl⟩] at hname
    rw [constantName_eq_map, hname]
    exact ⟨rfl, rfl⟩
  · intro hplain
    have hname := fieldName_withFieldName_of_selects hkey h raw name
    rw [checkName_of_invalid (mt isIdentifier_iff_isPlain.mp hplain)] at hname
    rw [constantName_eq_map, hname]
    exact ⟨rfl, rfl⟩

def shod : Configuration where
  productTypes := .ofList [("pt-1", {}), ("shoe", {})]

def keyed : Identity :=
  ⟨.productType, "pt-1", "shoe", "Shoe"⟩

def keyless : Identity :=
  ⟨.productType, "pt-1", "Shoe", "Shoe"⟩

theorem withFieldName_local_shod :
    (shod.withFieldName .variantAttributes "pt-1" "size" "shoeSize").fieldName .variantAttributes
        keyed "size" = shod.fieldName .variantAttributes keyed "size" ∧
    (shod.withFieldName .variantAttributes "pt-1" "size" "shoeSize").constantName .variantAttributes
        keyless "size" = .ok (upperSnakeCase "shoeSize") ∧
    (shod.withFieldName .variantAttributes "pt-1" "size" "_").fieldName .variantAttributes
        keyless "size" = .error (.invalidIdentifier .fieldName "_" "Shoe") := by
  have hkey : "pt-1" ∈ (shod.overridesIn .variantAttributes).keys := by decide
  have hkeyed : ¬ shod.Selects .variantAttributes keyed "pt-1" := by
    rintro (he | ⟨hmissing, -⟩)
    · exact absurd he (by decide)
    · exact hmissing (by decide)
  have hkeyless : shod.Selects .variantAttributes keyless "pt-1" := .inr ⟨by decide, rfl⟩
  obtain ⟨-, -, hkept, -⟩ := withFieldName_local hkey "size" "shoeSize" keyed
  obtain ⟨-, -, -, hnamed⟩ := withFieldName_local hkey "size" "shoeSize" keyless
  obtain ⟨-, -, -, hrefused⟩ := withFieldName_local hkey "size" "_" keyless
  refine ⟨(hkept _ _ fun h => hkeyed h.2.2).1, ?_, ?_⟩
  · exact ((hnamed hkeyless).1 (isIdentifier_iff_isPlain.mp (by decide))).2
  · exact ((hrefused hkeyless).2 fun h => h.notUnderscore rfl).1

end Names

end SchemaProjection.Configuration
