import SchemaProjection.Configuration.Reading
import SchemaProjection.Proofs.KeyMap
import SchemaProjection.Proofs.Outcome
import SchemaProjection.Proofs.Toml.UniqueKeys

namespace SchemaProjection

namespace Toml

variable {α : Type} {es : List (String × Toml)} {k : String} {v : Toml} {default a : α}
  {item? read? : Toml → Option α} {m : KeyMap α}

theorem string?_eq_some_iff {s : String} : string? v = some s ↔ v = .string s := by
  cases v <;> simp [string?]

theorem bool?_eq_some_iff {b : Bool} : bool? v = some b ↔ v = .bool b := by
  cases v <;> simp [bool?]

theorem lookup_cases (h : (es.map (·.1)).Nodup) (k : String) :
    (∃ v, es.lookup k = some v ∧ ∀ w, (k, w) ∈ es ↔ w = v) ∨
      es.lookup k = none ∧ ∀ w, (k, w) ∉ es := by
  cases hk : es.lookup k with
  | none =>
    have hnot := lookup_eq_none_iff_notMem.mp hk
    exact .inr ⟨rfl, fun w hw => hnot (List.mem_map_of_mem hw)⟩
  | some v =>
    refine .inl ⟨v, rfl, fun w => ?_⟩
    rw [← lookup_eq_some_iff_mem h, hk, Option.some.injEq, eq_comm]

theorem exists_orDefault_lookup_iff (h : (es.map (·.1)).Nodup) :
    (∃ a, orDefault default read? (es.lookup k) = some a) ↔
      ∀ v, (k, v) ∈ es → ∃ a, read? v = some a := by
  obtain ⟨v, hv, honly⟩ | ⟨hnone, hno⟩ := lookup_cases h k
  · simp [hv, honly, orDefault]
  · simp [hnone, hno, orDefault]

theorem slots?_of_forall {keys : List String} (h : ∀ e ∈ es, e.1 ∈ keys) :
    slots? keys es = some (keys.map fun k => es.lookup k) :=
  if_pos (List.all_eq_true.mpr fun e he => List.contains_iff_mem.mpr (h e he))

theorem slots?_of_not_forall {keys : List String} (h : ¬ ∀ e ∈ es, e.1 ∈ keys) :
    slots? keys es = none :=
  if_neg fun hall => h fun e he => List.contains_iff_mem.mp (List.all_eq_true.mp hall e he)

theorem map?_table_eq_some_iff :
    map? item? (.table es) = some m ↔
      ∃ ps, List.Forall₂ (fun e p => e.1 = p.1 ∧ item? e.2 = some p.2) es ps ∧
        KeyMap.ofList ps = m := by
  have hpair (e : String × Toml) (p : String × α) :
      (item? e.2).map (e.1, ·) = some p ↔ e.1 = p.1 ∧ item? e.2 = some p.2 := by
    obtain ⟨k, a⟩ := p
    simp [Option.map_eq_some_iff, and_comm]
  simp only [map?, Option.map_eq_some_iff, Outcome.mapM_eq_some_iff, hpair]

theorem exists_map?_table_iff :
    (∃ m, map? item? (.table es) = some m) ↔ ∀ e ∈ es, ∃ a, item? e.2 = some a := by
  simp only [map?_table_eq_some_iff]
  constructor
  · rintro ⟨-, ps, hps, -⟩ e he
    obtain ⟨p, -, -, hp⟩ := Outcome.exists_of_mem_forall₂ hps.flip he
    exact ⟨p.2, hp⟩
  · intro h
    have hread : ∀ e ∈ es, ∃ p : String × α, e.1 = p.1 ∧ item? e.2 = some p.2 := by
      intro e he
      obtain ⟨a, ha⟩ := h e he
      exact ⟨(e.1, a), rfl, ha⟩
    obtain ⟨ps, hps⟩ := Outcome.exists_forall₂_iff.mpr hread
    exact ⟨_, ps, hps, rfl⟩

theorem get?_of_map?_table (h : (es.map (·.1)).Nodup) (hm : map? item? (.table es) = some m)
    (k : String) (a : α) : m.get? k = some a ↔ ∃ v, (k, v) ∈ es ∧ item? v = some a := by
  obtain ⟨ps, hps, rfl⟩ := map?_table_eq_some_iff.mp hm
  have hkeys : (ps.map (·.1)).Nodup := by
    rwa [← Outcome.map_eq_map_of_forall₂ hps fun _ _ hp => hp.1]
  rw [KeyMap.ofList, KeyMap.get?_foldl_insert hkeys, KeyMap.get?_empty, Option.or_none,
    lookup_eq_some_iff_mem hkeys]
  constructor
  · intro hp
    obtain ⟨⟨_, v⟩, hv, rfl, hread⟩ := Outcome.exists_of_mem_forall₂ hps hp
    exact ⟨v, hv, hread⟩
  · rintro ⟨v, hv, hread⟩
    obtain ⟨⟨_, b⟩, hb, rfl, hread'⟩ := Outcome.exists_of_mem_forall₂ hps.flip hv
    rw [hread, Option.some.injEq] at hread'
    rwa [hread']

theorem get?_of_map?_dateTime {text : String} (hm : map? item? (.dateTime text) = some m)
    (k : String) (a : α) : m.get? k = some a ↔ k = dateTimeKey ∧ item? (.string text) = some a := by
  obtain ⟨b, hb, rfl⟩ := Option.map_eq_some_iff.mp hm
  change (KeyMap.insert ∅ dateTimeKey b).get? k = some a ↔ _
  rw [KeyMap.get?_insert, hb]
  split
  next hk => simp [hk]
  next hk =>
    simp only [hk, false_and, iff_false]
    exact nofun

theorem get?_of_orDefault_map? (h : IsKeyed (.table es))
    (hm : orDefault ∅ (map? item?) (es.lookup k) = some m) (name : String) (a : α) :
    m.get? name = some a ↔
      (∃ entries v, (k, .table entries) ∈ es ∧ (name, v) ∈ entries ∧ item? v = some a) ∨
        ∃ text, (k, .dateTime text) ∈ es ∧ name = dateTimeKey ∧ item? (.string text) = some a := by
  obtain ⟨hkeys, hvalues⟩ := isKeyed_table_iff.mp h
  obtain ⟨v, hv, honly⟩ | ⟨hnone, hno⟩ := lookup_cases hkeys k
  · have hkeyed : v.IsKeyed := hvalues (k, v) ((honly v).mpr rfl)
    rw [hv] at hm
    simp only [honly]
    cases v with
    | table entries =>
      obtain ⟨hnodup, -⟩ := isKeyed_table_iff.mp hkeyed
      simp [get?_of_map?_table hnodup hm]
    | dateTime text => simp [get?_of_map?_dateTime hm]
    | _ => cases hm
  · rw [hnone] at hm
    cases hm
    simp only [hno, false_and, exists_false, or_false, iff_false]
    exact nofun

theorem read?_ofList (cs : List Char) :
    Toml.read? (.ofList cs) = (Token.read? (withoutByteOrderMark cs)).bind fun ts =>
      (ts.foldlM Reader.next? ⟨[], [], .line⟩).bind Reader.finish? := by
  rw [Toml.read?, String.toList_ofList]
  rfl

section Kinds

def IsString (v : Toml) : Prop :=
  ∃ s, v = .string s

def IsBool (v : Toml) : Prop :=
  ∃ b, v = .bool b

def IsDateTime (v : Toml) : Prop :=
  ∃ text, v = .dateTime text

def IsTableOf (IsItem : Toml → Prop) (v : Toml) : Prop :=
  ∃ es, v = .table es ∧ ∀ e ∈ es, IsItem e.2

theorem exists_string?_iff : (∃ s, string? v = some s) ↔ v.IsString := by
  simp only [string?_eq_some_iff, IsString]

/-- A date or a time stands for the table with its text. -/
theorem exists_map?_iff :
    (∃ m, map? item? v = some m) ↔
      v.IsTableOf (fun e => ∃ a, item? e = some a) ∨
        ∃ text, v = .dateTime text ∧ ∃ a, item? (.string text) = some a := by
  cases v with
  | table es => simp [exists_map?_table_iff, IsTableOf]
  | dateTime text => simp [map?, IsTableOf]
  | _ => simp [map?, IsTableOf]

theorem exists_map_string?_iff : (∃ a, v.string?.map some = some a) ↔ v.IsString := by
  simp [Option.map_eq_some_iff, string?_eq_some_iff, IsString]

theorem exists_map?_string_iff :
    (∃ m, map? string? v = some m) ↔ v.IsTableOf IsString ∨ v.IsDateTime := by
  simp [exists_map?_iff, string?_eq_some_iff, IsTableOf, IsString, IsDateTime]

theorem exists_map?_bool_iff : (∃ m, map? bool? v = some m) ↔ v.IsTableOf IsBool := by
  simp [exists_map?_iff, bool?_eq_some_iff, IsTableOf, IsBool]

end Kinds

end Toml

open Toml

variable {es members : List (String × Toml)} {text : String} {o o' : Overrides} {c : Configuration}

section Accepted

/-- The members of an entry for overrides are those that such entries have, and of their kinds. -/
structure FitsOverrides (members : List (String × Toml)) : Prop where
  keys : ∀ e ∈ members, e.1 ∈ ["class_name", "fields", "required"]
  className : ∀ v, ("class_name", v) ∈ members → v.IsString
  fields : ∀ v, ("fields", v) ∈ members → v.IsTableOf IsString ∨ v.IsDateTime
  required : ∀ v, ("required", v) ∈ members → v.IsTableOf IsBool

structure FitsConfiguration (es : List (String × Toml)) : Prop where
  keys : ∀ e ∈ es, e.1 ∈ ["package_name", "sdk_crate", "custom_types", "product_types"]
  packageName : ∀ v, ("package_name", v) ∈ es → v.IsString
  sdkCrate : ∀ v, ("sdk_crate", v) ∈ es → v.IsString
  customTypes : ∀ v, ("custom_types", v) ∈ es →
    v.IsTableOf fun e => ∃ members, e = .table members ∧ FitsOverrides members
  productTypes : ∀ v, ("product_types", v) ∈ es →
    v.IsTableOf fun e => ∃ members, e = .table members ∧ FitsOverrides members

theorem Overrides.ofToml?_table_eq_some_iff :
    Overrides.ofToml? (.table members) = some o ↔
      (∀ e ∈ members, e.1 ∈ ["class_name", "fields", "required"]) ∧
      orDefault none (·.string?.map some) (members.lookup "class_name") = some o.className ∧
      orDefault ∅ (map? string?) (members.lookup "fields") = some o.fields ∧
      orDefault ∅ (map? bool?) (members.lookup "required") = some o.required := by
  obtain ⟨className, fields, required⟩ := o
  by_cases hkeys : ∀ e ∈ members, e.1 ∈ ["class_name", "fields", "required"]
  · rw [Overrides.ofToml?, slots?_of_forall hkeys, and_iff_right hkeys]
    simp [Overrides.ofSlots?, Option.bind_eq_some_iff]
  · rw [Overrides.ofToml?, slots?_of_not_forall hkeys]
    exact iff_of_false nofun fun h => hkeys h.1

theorem Configuration.ofTable?_eq_some_iff :
    Configuration.ofTable? es = some c ↔
      (∀ e ∈ es, e.1 ∈ ["package_name", "sdk_crate", "custom_types", "product_types"]) ∧
      orDefault "generated" string? (es.lookup "package_name") = some c.packageName ∧
      orDefault "commercetools" string? (es.lookup "sdk_crate") = some c.sdkCrate ∧
      orDefault ∅ (map? Overrides.ofToml?) (es.lookup "custom_types") = some c.customTypes ∧
      orDefault ∅ (map? Overrides.ofToml?) (es.lookup "product_types") = some c.productTypes := by
  obtain ⟨packageName, sdkCrate, customTypes, productTypes⟩ := c
  by_cases hkeys :
      ∀ e ∈ es, e.1 ∈ ["package_name", "sdk_crate", "custom_types", "product_types"]
  · rw [Configuration.ofTable?, slots?_of_forall hkeys, and_iff_right hkeys]
    simp [Option.bind_eq_some_iff]
  · rw [Configuration.ofTable?, slots?_of_not_forall hkeys]
    exact iff_of_false nofun fun h => hkeys h.1

theorem exists_overrides_iff (h : (members.map (·.1)).Nodup) :
    (∃ o, Overrides.ofToml? (.table members) = some o) ↔ FitsOverrides members := by
  simp only [Overrides.ofToml?_table_eq_some_iff]
  constructor
  · rintro ⟨o, hkeys, hclass, hfields, hrequired⟩
    refine ⟨hkeys, fun v hv => ?_, fun v hv => ?_, fun v hv => ?_⟩
    · exact exists_map_string?_iff.mp ((exists_orDefault_lookup_iff h).mp ⟨_, hclass⟩ v hv)
    · exact exists_map?_string_iff.mp ((exists_orDefault_lookup_iff h).mp ⟨_, hfields⟩ v hv)
    · exact exists_map?_bool_iff.mp ((exists_orDefault_lookup_iff h).mp ⟨_, hrequired⟩ v hv)
  · rintro ⟨hkeys, hclass, hfields, hrequired⟩
    obtain ⟨className, hclass⟩ := (exists_orDefault_lookup_iff h).mpr fun v hv =>
      exists_map_string?_iff.mpr (hclass v hv)
    obtain ⟨fields, hfields⟩ := (exists_orDefault_lookup_iff h).mpr fun v hv =>
      exists_map?_string_iff.mpr (hfields v hv)
    obtain ⟨required, hrequired⟩ := (exists_orDefault_lookup_iff h).mpr fun v hv =>
      exists_map?_bool_iff.mpr (hrequired v hv)
    exact ⟨⟨className, fields, required⟩, hkeys, hclass, hfields, hrequired⟩

def EntriesAreTables (es : List (String × Toml)) : Prop :=
  ∀ k ∈ ["custom_types", "product_types"], ∀ entries, (k, .table entries) ∈ es →
    ∀ e ∈ entries, ∃ members, e.2 = .table members

theorem exists_map?_overrides_iff {v : Toml} (h : v.IsKeyed)
    (htables : ∀ entries, v = .table entries → ∀ e ∈ entries, ∃ members, e.2 = .table members) :
    (∃ m, map? Overrides.ofToml? v = some m) ↔
      v.IsTableOf fun e => ∃ members, e = .table members ∧ FitsOverrides members := by
  have hno (text : String) : Overrides.ofToml? (.string text) = none := rfl
  simp only [exists_map?_iff, hno, reduceCtorEq, exists_false, and_false, or_false]
  refine exists_congr fun entries => and_congr_right fun hv => forall₂_congr fun e he => ?_
  subst hv
  obtain ⟨-, hvalues⟩ := isKeyed_table_iff.mp h
  obtain ⟨members, hmembers⟩ := htables entries rfl e he
  have hkeyed := hvalues e he
  rw [hmembers] at hkeyed ⊢
  obtain ⟨hnodup, -⟩ := isKeyed_table_iff.mp hkeyed
  simp [exists_overrides_iff hnodup]

theorem exists_ofTable?_iff (h : IsKeyed (.table es)) (htables : EntriesAreTables es) :
    (∃ c, Configuration.ofTable? es = some c) ↔ FitsConfiguration es := by
  obtain ⟨hnodup, hvalues⟩ := isKeyed_table_iff.mp h
  have hcustom (v : Toml) (hv : ("custom_types", v) ∈ es) := exists_map?_overrides_iff
    (hvalues _ hv) fun entries he => htables _ List.mem_cons_self entries (he ▸ hv)
  have hproduct (v : Toml) (hv : ("product_types", v) ∈ es) := exists_map?_overrides_iff
    (hvalues _ hv) fun entries he =>
      htables _ (List.mem_cons_of_mem _ List.mem_cons_self) entries (he ▸ hv)
  simp only [Configuration.ofTable?_eq_some_iff]
  constructor
  · rintro ⟨c, hkeys, hpackage, hsdk, htypes, hproductTypes⟩
    refine ⟨hkeys, fun v hv => ?_, fun v hv => ?_, fun v hv => ?_, fun v hv => ?_⟩
    · exact exists_string?_iff.mp ((exists_orDefault_lookup_iff hnodup).mp ⟨_, hpackage⟩ v hv)
    · exact exists_string?_iff.mp ((exists_orDefault_lookup_iff hnodup).mp ⟨_, hsdk⟩ v hv)
    · exact (hcustom v hv).mp ((exists_orDefault_lookup_iff hnodup).mp ⟨_, htypes⟩ v hv)
    · exact (hproduct v hv).mp ((exists_orDefault_lookup_iff hnodup).mp ⟨_, hproductTypes⟩ v hv)
  · rintro ⟨hkeys, hpackage, hsdk, htypes, hproductTypes⟩
    obtain ⟨packageName, hpackage⟩ := (exists_orDefault_lookup_iff hnodup).mpr fun v hv =>
      exists_string?_iff.mpr (hpackage v hv)
    obtain ⟨sdkCrate, hsdk⟩ := (exists_orDefault_lookup_iff hnodup).mpr fun v hv =>
      exists_string?_iff.mpr (hsdk v hv)
    obtain ⟨customTypes, htypes⟩ := (exists_orDefault_lookup_iff hnodup).mpr fun v hv =>
      (hcustom v hv).mpr (htypes v hv)
    obtain ⟨productTypes, hproductTypes⟩ := (exists_orDefault_lookup_iff hnodup).mpr fun v hv =>
      (hproduct v hv).mpr (hproductTypes v hv)
    exact ⟨⟨packageName, sdkCrate, customTypes, productTypes⟩, hkeys, hpackage, hsdk, htypes,
      hproductTypes⟩

end Accepted

section Held

/-- The overrides are those that the members have, and no others. -/
structure HoldsOverrides (members : List (String × Toml)) (o : Overrides) : Prop where
  className : ∀ s, o.className = some s ↔ ("class_name", .string s) ∈ members
  fields : ∀ raw name, o.fields.get? raw = some name ↔
    (∃ entries, ("fields", .table entries) ∈ members ∧ (raw, .string name) ∈ entries) ∨
      ("fields", .dateTime name) ∈ members ∧ raw = dateTimeKey
  required : ∀ raw flag, o.required.get? raw = some flag ↔
    ∃ entries, ("required", .table entries) ∈ members ∧ (raw, .bool flag) ∈ entries

/-- The map has the overrides of each entry of the table under the key, and no others. -/
def HoldsEntries (es : List (String × Toml)) (k : String) (m : KeyMap Overrides) : Prop :=
  ∀ name o, m.get? name = some o ↔ ∃ entries members, (k, .table entries) ∈ es ∧
    (name, .table members) ∈ entries ∧ HoldsOverrides members o

structure HoldsConfiguration (es : List (String × Toml)) (c : Configuration) : Prop where
  packageName : ("package_name", .string c.packageName) ∈ es ∨
    (∀ v, ("package_name", v) ∉ es) ∧ c.packageName = "generated"
  sdkCrate : ("sdk_crate", .string c.sdkCrate) ∈ es ∨
    (∀ v, ("sdk_crate", v) ∉ es) ∧ c.sdkCrate = "commercetools"
  customTypes : HoldsEntries es "custom_types" c.customTypes
  productTypes : HoldsEntries es "product_types" c.productTypes

theorem holdsOverrides_of_ofToml? (h : IsKeyed (.table members))
    (ho : Overrides.ofToml? (.table members) = some o) : HoldsOverrides members o := by
  obtain ⟨-, hclass, hfields, hrequired⟩ := Overrides.ofToml?_table_eq_some_iff.mp ho
  refine ⟨fun s => ?_, fun raw name => ?_, fun raw flag => ?_⟩
  · obtain ⟨hnodup, -⟩ := isKeyed_table_iff.mp h
    obtain ⟨v, hv, honly⟩ | ⟨hnone, hno⟩ := lookup_cases hnodup "class_name"
    · rw [hv] at hclass
      obtain ⟨t, ht, hsome⟩ := Option.map_eq_some_iff.mp hclass
      rw [honly, ← hsome, string?_eq_some_iff.mp ht]
      simp [eq_comm]
    · rw [hnone] at hclass
      rw [← Option.some.inj hclass]
      simp [hno]
  · rw [get?_of_orDefault_map? h hfields]
    simp [string?_eq_some_iff]
  · rw [get?_of_orDefault_map? h hrequired]
    simp [bool?_eq_some_iff]

theorem HoldsOverrides.unique (h : HoldsOverrides members o) (h' : HoldsOverrides members o') :
    o = o' := by
  obtain ⟨className, fields, required⟩ := o
  obtain ⟨className', fields', required'⟩ := o'
  obtain rfl : className = className' := Option.ext fun s => (h.className s).trans (h'.className s).symm
  obtain rfl : fields = fields' := KeyMap.ext_get? fun raw => Option.ext fun name =>
    (h.fields raw name).trans (h'.fields raw name).symm
  obtain rfl : required = required' := KeyMap.ext_get? fun raw => Option.ext fun flag =>
    (h.required raw flag).trans (h'.required raw flag).symm
  rfl

theorem holdsEntries_of_map? {k : String} {m : KeyMap Overrides} (h : IsKeyed (.table es))
    (htables : ∀ entries, (k, .table entries) ∈ es →
      ∀ e ∈ entries, ∃ members, e.2 = .table members)
    (hm : orDefault ∅ (map? Overrides.ofToml?) (es.lookup k) = some m) : HoldsEntries es k m := by
  obtain ⟨hnodup, hvalues⟩ := isKeyed_table_iff.mp h
  have hkeyed {name : String} {entries members : List (String × Toml)}
      (hk : (k, .table entries) ∈ es) (hname : (name, .table members) ∈ entries) :
      IsKeyed (.table members) := (isKeyed_table_iff.mp (hvalues _ hk)).2 _ hname
  intro name o
  rw [get?_of_orDefault_map? h hm]
  constructor
  · rintro (⟨entries, v, hk, hname, ho⟩ | ⟨text, -, -, ho⟩)
    · obtain ⟨members, rfl⟩ := htables entries hk _ hname
      exact ⟨entries, members, hk, hname, holdsOverrides_of_ofToml? (hkeyed hk hname) ho⟩
    · cases ho
  · rintro ⟨entries, members, hk, hname, ho⟩
    -- all entries of the table have been read, and this one cannot be read as anything else
    rw [(lookup_eq_some_iff_mem hnodup).mpr hk] at hm
    obtain ⟨o', ho'⟩ := exists_map?_table_iff.mp ⟨m, hm⟩ _ hname
    rw [(holdsOverrides_of_ofToml? (hkeyed hk hname) ho').unique ho] at ho'
    exact .inl ⟨entries, _, hk, hname, ho'⟩

theorem holds_of_orDefault_string? {k default s : String} (h : (es.map (·.1)).Nodup)
    (hs : orDefault default string? (es.lookup k) = some s) :
    (k, .string s) ∈ es ∨ (∀ v, (k, v) ∉ es) ∧ s = default := by
  obtain ⟨v, hv, honly⟩ | ⟨hnone, hno⟩ := lookup_cases h k
  · rw [hv] at hs
    exact .inl ((honly _).mpr (string?_eq_some_iff.mp hs).symm)
  · rw [hnone] at hs
    exact .inr ⟨hno, (Option.some.inj hs).symm⟩

theorem holdsConfiguration_of_ofTable? (h : IsKeyed (.table es)) (htables : EntriesAreTables es)
    (hc : Configuration.ofTable? es = some c) : HoldsConfiguration es c := by
  obtain ⟨hnodup, -⟩ := isKeyed_table_iff.mp h
  obtain ⟨-, hpackage, hsdk, htypes, hproductTypes⟩ := Configuration.ofTable?_eq_some_iff.mp hc
  exact ⟨holds_of_orDefault_string? hnodup hpackage, holds_of_orDefault_string? hnodup hsdk,
    holdsEntries_of_map? h (htables _ List.mem_cons_self) htypes,
    holdsEntries_of_map? h (htables _ (List.mem_cons_of_mem _ List.mem_cons_self)) hproductTypes⟩

end Held

namespace Configuration

theorem ofToml_eq_ok_iff (h : Toml.read? text = some es) :
    ofToml text = .ok c ↔ ofTable? es = some c := by
  rw [ofToml, h, Option.bind_some]
  cases ofTable? es <;> simp

theorem ofToml_eq_error_iff (h : Toml.read? text = some es) :
    ofToml text = .error .configuration ↔ ofTable? es = none := by
  rw [ofToml, h, Option.bind_some]
  cases ofTable? es <;> simp

/-- A document whose overrides are written as tables is a configuration exactly when each of its keys
belongs where it is and has a value of its kind. The configuration then has the values of the
document, and nothing else but defaults. A date or a time passes for a table of names. -/
theorem ofToml_ignores_nothing (h : Toml.read? text = some es) (htables : EntriesAreTables es) :
    ((∃ c, ofToml text = .ok c) ↔ FitsConfiguration es) ∧
    (∀ c, ofToml text = .ok c → HoldsConfiguration es c) ∧
    (¬ FitsConfiguration es → ofToml text = .error .configuration) := by
  have hkeyed := isKeyed_read h
  have hfits := exists_ofTable?_iff hkeyed htables
  simp only [ofToml_eq_ok_iff h, ofToml_eq_error_iff h]
  refine ⟨hfits, fun c => holdsConfiguration_of_ofTable? hkeyed htables, fun hn => ?_⟩
  exact Option.eq_none_iff_forall_ne_some.mpr fun c hc => hn (hfits.mp ⟨c, hc⟩)

def shopText : String :=
  "[custom_types.color.fields]\nname = \"shade\"\n[product_types.shoe.required]\nsize = true\n"

def shopEntries : List (String × Toml) :=
  [("custom_types", .table [("color", .table [("fields", .table [("name", .string "shade")])])]),
   ("product_types", .table [("shoe", .table [("required", .table [("size", .bool true)])])])]

def misspeltText : String :=
  "[product_types.shoe.requried]\nsize = true\n"

def misspeltEntries : List (String × Toml) :=
  [("product_types", .table [("shoe", .table [("requried", .table [("size", .bool true)])])])]

def datedText : String :=
  "[custom_types.color]\nfields = 1979-05-27\n"

def datedEntries : List (String × Toml) :=
  [("custom_types", .table [("color", .table [("fields", .dateTime "1979-05-27")])])]

theorem read_configurationTexts :
    Toml.read? shopText = some shopEntries ∧ Toml.read? misspeltText = some misspeltEntries ∧
      Toml.read? datedText = some datedEntries := by
  refine ⟨?_, ?_, ?_⟩
  · rw [show shopText = .ofList _ from rfl, Toml.read?_ofList]
    with_unfolding_all rfl
  · rw [show misspeltText = .ofList _ from rfl, Toml.read?_ofList]
    with_unfolding_all rfl
  · rw [show datedText = .ofList _ from rfl, Toml.read?_ofList]
    with_unfolding_all rfl

theorem ofToml_ignores_nothing_shop :
    (∃ c, ofToml shopText = .ok c ∧ HoldsConfiguration shopEntries c) ∧
    ofToml misspeltText = .error .configuration := by
  obtain ⟨hshop, hmisspelt, -⟩ := read_configurationTexts
  have hshopTables : EntriesAreTables shopEntries := by simp [EntriesAreTables, shopEntries]
  have hmisspeltTables : EntriesAreTables misspeltEntries := by
    simp [EntriesAreTables, misspeltEntries]
  obtain ⟨-, hholds, -⟩ := ofToml_ignores_nothing hshop hshopTables
  obtain ⟨-, -, hrefused⟩ := ofToml_ignores_nothing hmisspelt hmisspeltTables
  refine ⟨?_, hrefused fun hfits => ?_⟩
  · have hc : ofToml shopText = .ok _ := (ofToml_eq_ok_iff hshop).mpr rfl
    exact ⟨_, hc, hholds _ hc⟩
  · obtain ⟨entries, he, hall⟩ := hfits.productTypes _ List.mem_cons_self
    cases he
    obtain ⟨members, hm, hoverrides⟩ := hall _ List.mem_cons_self
    cases hm
    exact absurd (hoverrides.keys _ List.mem_cons_self) (by decide)

/-- The names of the fields are no table, but the document is accepted: the one name that is read is
the date, under a key that stands nowhere in the text. -/
theorem ofToml_dated :
    Toml.read? datedText = some datedEntries ∧ EntriesAreTables datedEntries ∧
    (∃ entries members v, ("custom_types", .table entries) ∈ datedEntries ∧
      ("color", .table members) ∈ entries ∧ ("fields", v) ∈ members ∧
      ¬ v.IsTableOf IsString) ∧
    ∃ c o, ofToml datedText = .ok c ∧ c.customTypes.get? "color" = some o ∧
      o.fields.get? dateTimeKey = some "1979-05-27" := by
  obtain ⟨-, -, hdated⟩ := read_configurationTexts
  refine ⟨hdated, by simp [EntriesAreTables, datedEntries], ?_, ?_⟩
  · refine ⟨_, _, _, List.mem_cons_self, List.mem_cons_self, List.mem_cons_self, ?_⟩
    rintro ⟨fields, he, -⟩
    cases he
  · exact ⟨_, _, (ofToml_eq_ok_iff hdated).mpr rfl, rfl, rfl⟩

end Configuration

end SchemaProjection
