import Mathlib.Data.List.Induction
import SchemaProjection.Configuration.Basic
import SchemaProjection.Proofs.KeyMap

namespace SchemaProjection

/-- What can be replaced of one entity. -/
inductive Part where
  | className
  | fieldName (raw : String)
  | required (raw : String)
  deriving DecidableEq

structure Slot where
  domain : Domain
  key : String
  part : Part
  deriving DecidableEq

inductive SlotValue where
  | name (name : String)
  | flag (required : Bool)
  deriving DecidableEq

namespace Override

/-- The slot that a call is for. -/
def slot : Override → Slot
  | customFieldName key raw _ => ⟨.customFields, key, .fieldName raw⟩
  | attributeName key raw _ => ⟨.variantAttributes, key, .fieldName raw⟩
  | attributeRequired key raw _ => ⟨.variantAttributes, key, .required raw⟩
  | customTypeClass key _ => ⟨.customFields, key, .className⟩
  | productTypeClass key _ => ⟨.variantAttributes, key, .className⟩

def value : Override → SlotValue
  | customFieldName _ _ name => .name name
  | attributeName _ _ name => .name name
  | attributeRequired _ _ required => .flag required
  | customTypeClass _ className => .name className
  | productTypeClass _ className => .name className

def write : Override → Overrides → Overrides
  | customFieldName _ raw name => (·.nameField raw name)
  | attributeName _ raw name => (·.nameField raw name)
  | attributeRequired _ raw required => (·.requireField raw required)
  | customTypeClass _ className => (·.nameClass className)
  | productTypeClass _ className => (·.nameClass className)

/-- The calls for each slot are the same, in the same order. -/
def Rearranged (calls calls' : List Override) : Prop :=
  ∀ s, calls.filter (·.slot = s) = calls'.filter (·.slot = s)

theorem rearranged_swap {a b : Override} (h : a.slot ≠ b.slot) (before after : List Override) :
    Rearranged (before ++ a :: b :: after) (before ++ b :: a :: after) := by
  intro s
  rw [List.filter_append, List.filter_append]
  congr 1
  by_cases ha : a.slot = s
  · have hb : b.slot ≠ s := fun hb => h (ha.trans hb.symm)
    simp [ha, hb]
  · simp [List.filter_cons, ha]

end Override

namespace Overrides

def get? (o : Overrides) : Part → Option SlotValue
  | .className => o.className.map .name
  | .fieldName raw => (o.fields.get? raw).map .name
  | .required raw => (o.required.get? raw).map .flag

theorem get?_default (part : Part) : ({} : Overrides).get? part = none := by
  cases part <;> rfl

theorem map_get?_insert {α : Type} (m : KeyMap α) (raw raw' : String) (v : α) (f : α → SlotValue) :
    ((m.insert raw v).get? raw').map f =
      if raw' = raw then some (f v) else (m.get? raw').map f := by
  rw [KeyMap.get?_insert]
  split <;> rfl

theorem get?_write (call : Override) (o : Overrides) (part : Part) :
    (call.write o).get? part = if part = call.slot.part then some call.value else o.get? part := by
  cases call <;> cases part <;>
    simp [Override.write, Override.slot, Override.value, get?, nameField, requireField, nameClass,
      map_get?_insert]

theorem ext_get? {o o' : Overrides} (h : ∀ part, o.get? part = o'.get? part) : o = o' := by
  have hname : Function.Injective SlotValue.name := fun _ _ => SlotValue.name.inj
  have hflag : Function.Injective SlotValue.flag := fun _ _ => SlotValue.flag.inj
  obtain ⟨className, fields, required⟩ := o
  obtain ⟨className', fields', required'⟩ := o'
  obtain rfl : className = className' := Option.map_injective hname (h .className)
  obtain rfl : fields = fields' :=
    KeyMap.ext_get? fun raw => Option.map_injective hname (h (.fieldName raw))
  obtain rfl : required = required' :=
    KeyMap.ext_get? fun raw => Option.map_injective hflag (h (.required raw))
  rfl

end Overrides

namespace Configuration

variable {c c' : Configuration} {calls calls' : List Override}

def get? (c : Configuration) (s : Slot) : Option SlotValue :=
  ((c.overridesIn s.domain).get? s.key).bind (·.get? s.part)

section Step

variable (c : Configuration) (call : Override)

theorem overridesIn_apply (domain : Domain) :
    (c.apply call).overridesIn domain =
      if domain = call.slot.domain then (c.overridesIn domain).update call.slot.key {} call.write
      else c.overridesIn domain := by
  cases call <;> cases domain <;> rfl

theorem mem_keys_apply (domain : Domain) (key : String) :
    key ∈ ((c.apply call).overridesIn domain).keys ↔
      key ∈ (c.overridesIn domain).keys ∨ call.slot.domain = domain ∧ call.slot.key = key := by
  rw [overridesIn_apply]
  split
  next h =>
    rw [KeyMap.update, KeyMap.mem_keys_insert, or_comm, eq_comm (a := key)]
    simp [h]
  next h => simp [Ne.symm h]

theorem get?_apply (s : Slot) :
    (c.apply call).get? s = if s = call.slot then some call.value else c.get? s := by
  obtain ⟨domain, key, part⟩ := s
  rw [get?, overridesIn_apply]
  by_cases hdomain : domain = call.slot.domain
  · rw [if_pos hdomain, KeyMap.get?_update]
    by_cases hkey : key = call.slot.key
    · subst hkey
      subst hdomain
      rw [if_pos rfl, Option.bind_some, Overrides.get?_write]
      by_cases hpart : part = call.slot.part
      · subst hpart
        simp
      · -- an entry that the call has made holds nothing else
        have hne : (⟨call.slot.domain, call.slot.key, part⟩ : Slot) ≠ call.slot := by
          intro he
          exact hpart (congrArg Slot.part he)
        rw [if_neg hpart, if_neg hne, get?]
        cases (c.overridesIn call.slot.domain).get? call.slot.key with
        | none => exact Overrides.get?_default part
        | some o => rfl
    · have hne : (⟨domain, key, part⟩ : Slot) ≠ call.slot := fun he => hkey (congrArg Slot.key he)
      rw [if_neg hkey, if_neg hne, get?]
  · have hne : (⟨domain, key, part⟩ : Slot) ≠ call.slot :=
      fun he => hdomain (congrArg Slot.domain he)
    rw [if_neg hdomain, if_neg hne, get?]

theorem package_and_sdk_apply :
    (c.apply call).packageName = c.packageName ∧ (c.apply call).sdkCrate = c.sdkCrate := by
  cases call <;> exact ⟨rfl, rfl⟩

end Step

section Run

theorem applyAll_append_singleton (c : Configuration) (calls : List Override) (call : Override) :
    c.applyAll (calls ++ [call]) = (c.applyAll calls).apply call := by
  rw [applyAll, List.foldl_append]
  rfl

theorem get?_applyAll (c : Configuration) (calls : List Override) (s : Slot) :
    (c.applyAll calls).get? s =
      ((calls.filter (·.slot = s)).getLast?.map (·.value)).or (c.get? s) := by
  induction calls using List.reverseRecOn with
  | nil => rfl
  | append_singleton calls call ih =>
    rw [applyAll_append_singleton, get?_apply, ih, List.filter_append]
    by_cases hs : call.slot = s
    · simp [hs]
    · simp [hs, Ne.symm hs]

theorem mem_keys_applyAll (c : Configuration) (calls : List Override) (domain : Domain)
    (key : String) :
    key ∈ ((c.applyAll calls).overridesIn domain).keys ↔
      key ∈ (c.overridesIn domain).keys ∨
        ∃ call ∈ calls, call.slot.domain = domain ∧ call.slot.key = key := by
  induction calls using List.reverseRecOn with
  | nil => simp [applyAll]
  | append_singleton calls call ih =>
    rw [applyAll_append_singleton, mem_keys_apply, ih, or_assoc]
    simp [or_and_right, exists_or]

theorem package_and_sdk_applyAll (c : Configuration) (calls : List Override) :
    (c.applyAll calls).packageName = c.packageName ∧
      (c.applyAll calls).sdkCrate = c.sdkCrate := by
  induction calls using List.reverseRecOn with
  | nil => exact ⟨rfl, rfl⟩
  | append_singleton calls call ih =>
    rw [applyAll_append_singleton]
    obtain ⟨hpackage, hsdk⟩ := package_and_sdk_apply (c.applyAll calls) call
    exact ⟨hpackage.trans ih.1, hsdk.trans ih.2⟩

end Run

theorem eq_of_mem_keys_of_get? {m n : KeyMap Overrides} (hkeys : ∀ key, key ∈ m.keys ↔ key ∈ n.keys)
    (hget : ∀ key part, (m.get? key).bind (·.get? part) = (n.get? key).bind (·.get? part)) :
    m = n := by
  apply KeyMap.ext_get?
  intro key
  by_cases hkey : key ∈ m.keys
  · obtain ⟨o, ho⟩ := KeyMap.mem_keys_iff_exists.mp hkey
    obtain ⟨o', ho'⟩ := KeyMap.mem_keys_iff_exists.mp ((hkeys key).mp hkey)
    have hparts := hget key
    rw [ho, ho'] at hparts ⊢
    exact congrArg some (Overrides.ext_get? hparts)
  · rw [KeyMap.get?_eq_none_iff.mpr hkey, KeyMap.get?_eq_none_iff.mpr (mt (hkeys key).mpr hkey)]

theorem ext_get? (hpackage : c.packageName = c'.packageName) (hsdk : c.sdkCrate = c'.sdkCrate)
    (hkeys : ∀ domain key, key ∈ (c.overridesIn domain).keys ↔ key ∈ (c'.overridesIn domain).keys)
    (hget : ∀ s, c.get? s = c'.get? s) : c = c' := by
  have hmaps (domain : Domain) : c.overridesIn domain = c'.overridesIn domain :=
    eq_of_mem_keys_of_get? (hkeys domain) fun key part => hget ⟨domain, key, part⟩
  obtain ⟨packageName, sdkCrate, customTypes, productTypes⟩ := c
  obtain ⟨packageName', sdkCrate', customTypes', productTypes'⟩ := c'
  obtain rfl : packageName = packageName' := hpackage
  obtain rfl : sdkCrate = sdkCrate' := hsdk
  obtain rfl : customTypes = customTypes' := hmaps .customFields
  obtain rfl : productTypes = productTypes' := hmaps .variantAttributes
  rfl

theorem mem_of_rearranged (h : Override.Rearranged calls calls') {call : Override}
    (hcall : call ∈ calls) : call ∈ calls' := by
  have hfilter : call ∈ calls.filter (·.slot = call.slot) :=
    List.mem_filter.mpr ⟨hcall, decide_eq_true rfl⟩
  rw [h call.slot] at hfilter
  exact (List.mem_filter.mp hfilter).1

theorem applyAll_eq_of_rearranged (h : Override.Rearranged calls calls') (c : Configuration) :
    c.applyAll calls = c.applyAll calls' := by
  obtain ⟨hpackage, hsdk⟩ := package_and_sdk_applyAll c calls
  obtain ⟨hpackage', hsdk'⟩ := package_and_sdk_applyAll c calls'
  have hcalls (call : Override) : call ∈ calls ↔ call ∈ calls' :=
    ⟨mem_of_rearranged h, mem_of_rearranged fun s => (h s).symm⟩
  apply ext_get? (hpackage.trans hpackage'.symm) (hsdk.trans hsdk'.symm)
  · intro domain key
    simp only [mem_keys_applyAll, hcalls]
  · intro s
    rw [get?_applyAll, get?_applyAll, h s]

/-- After a run of calls each slot holds what the last call for it has written, or else what it held
before; the entities are those of before and those of the calls, and the names of the package and
the SDK are kept. So the order of calls counts only for each slot by itself. -/
theorem applyAll_slot_by_slot (c : Configuration) (calls : List Override) :
    (∀ before call after, calls = before ++ call :: after →
      (∀ later ∈ after, later.slot ≠ call.slot) →
      (c.applyAll calls).get? call.slot = some call.value) ∧
    (∀ s, (∀ call ∈ calls, call.slot ≠ s) → (c.applyAll calls).get? s = c.get? s) ∧
    (∀ domain key, key ∈ ((c.applyAll calls).overridesIn domain).keys ↔
      key ∈ (c.overridesIn domain).keys ∨
        ∃ call ∈ calls, call.slot.domain = domain ∧ call.slot.key = key) ∧
    (c.applyAll calls).packageName = c.packageName ∧ (c.applyAll calls).sdkCrate = c.sdkCrate ∧
    ∀ calls', Override.Rearranged calls calls' → c.applyAll calls' = c.applyAll calls := by
  obtain ⟨hpackage, hsdk⟩ := package_and_sdk_applyAll c calls
  refine ⟨?_, ?_, mem_keys_applyAll c calls, hpackage, hsdk, fun calls' h =>
    (applyAll_eq_of_rearranged h c).symm⟩
  · rintro before call after rfl hlater
    have hafter : after.filter (·.slot = call.slot) = [] := by
      simpa [List.filter_eq_nil_iff] using hlater
    rw [get?_applyAll, List.filter_append, List.filter_cons, hafter, List.getLast?_append]
    simp
  · intro s hs
    have hnone : calls.filter (·.slot = s) = [] := by
      simpa [List.filter_eq_nil_iff] using hs
    rw [get?_applyAll, hnone]
    rfl

def booted : Configuration where
  customTypes := .ofList [("shoe", { className := some "Boot" })]

/-- The name of one attribute is given twice, with calls for other slots of that key between. -/
def shoeCalls : List Override :=
  [.attributeName "shoe" "size" "small", .attributeRequired "shoe" "size" true,
   .customFieldName "shoe" "size" "fit", .attributeName "shoe" "size" "large",
   .productTypeClass "shoe" "Footwear"]

theorem applyAll_shoeCalls :
    (booted.applyAll shoeCalls).get? ⟨.variantAttributes, "shoe", .fieldName "size"⟩ =
      some (.name "large") ∧
    (booted.applyAll shoeCalls).get? ⟨.customFields, "shoe", .className⟩ = some (.name "Boot") ∧
    booted.applyAll
        [.attributeName "shoe" "size" "small", .customFieldName "shoe" "size" "fit",
         .attributeRequired "shoe" "size" true, .attributeName "shoe" "size" "large",
         .productTypeClass "shoe" "Footwear"] =
      booted.applyAll shoeCalls := by
  obtain ⟨hlast, hkept, -, -, -, hrearranged⟩ := applyAll_slot_by_slot booted shoeCalls
  refine ⟨hlast (shoeCalls.take 3) _ [.productTypeClass "shoe" "Footwear"] rfl (by decide), ?_, ?_⟩
  · rw [hkept _ (by decide)]
    rfl
  · exact hrearranged _ (Override.rearranged_swap (by decide) [_] [_, _])

end Configuration

end SchemaProjection
