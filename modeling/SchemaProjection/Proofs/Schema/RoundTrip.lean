import SchemaProjection.Proofs.Json.Reader
import SchemaProjection.Proofs.Schema.TypeSpelling
import SchemaProjection.Schema.Reading

namespace SchemaProjection

open Json

variable {α τ : Type} {fmt : TypeFormat τ} {typeToJson : τ → Json} {flag : String} {j v : Json}
  {n k : Nat}

section Parts

theorem list?_map {item? : Json → Option α} {toJson : α → Json}
    (h : ∀ x, item? (toJson x) = some x) (xs : List α) :
    list? item? (.array (xs.map toJson)) = some xs := by
  rw [list?, Outcome.mapM_eq_some_iff, List.forall₂_map_left_iff, List.forall₂_same]
  exact fun x _ => h x

theorem localized?_localizedToJson (m : Localized) : localized? (localizedToJson m) = some m := by
  have hentries : (m.entries.map fun e => (e.1, Json.string e.2)).mapM
      (fun e : String × Json => e.2.string?.map (e.1, ·)) = some m.entries := by
    rw [Outcome.mapM_eq_some_iff, List.forall₂_map_left_iff, List.forall₂_same]
    exact fun _ _ => rfl
  rw [localizedToJson, localized?, hentries, Option.map_some, KeyMap.ofList_entries]

theorem key?_elim (key : Option String) : key? (some (key.elim .null .string)) = some key := by
  cases key with
  | none => rfl
  | some s => rfl

theorem lastWins_elim (key : Option String) :
    (key.elim Json.null .string).lastWins = key.elim .null .string := by
  cases key with
  | none => rfl
  | some s => rfl

theorem depth_elim (key : Option String) : (key.elim Json.null .string).depth = 0 := by
  cases key with
  | none => rfl
  | some s => rfl

theorem lastWins_map {toJson : α → Json} (h : ∀ x, (toJson x).lastWins = toJson x) (xs : List α) :
    (Json.array (xs.map toJson)).lastWins = .array (xs.map toJson) := by
  apply lastWins_array_eq_self
  rw [List.forall_mem_map]
  exact fun x _ => h x

theorem lastWins_localizedToJson (m : Localized) :
    (localizedToJson m).lastWins = localizedToJson m := by
  apply lastWins_object_eq_self
  · rw [List.map_map]
    exact m.nodup_keys
  · rw [List.forall_mem_map]
    exact fun _ _ => rfl

theorem depth_localizedToJson_le (m : Localized) : (localizedToJson m).depth ≤ 1 := by
  rw [localizedToJson, depth_object_le_iff, List.forall_mem_map]
  exact ⟨Nat.one_pos, fun _ _ => Nat.one_pos⟩

theorem depth_map_string_le (xs : List String) : (Json.array (xs.map .string)).depth ≤ 1 := by
  rw [depth_array_le_iff, List.forall_mem_map]
  exact ⟨Nat.one_pos, fun _ _ => Nat.one_pos⟩

theorem depth_list?_le {item? : Json → Option α} {toJson : α → Json}
    (hitem : ∀ v x, item? v = some x → (toJson x).depth ≤ max v.depth k) {xs : List α}
    (h : list? item? j = some xs) : (Json.array (xs.map toJson)).depth ≤ max j.depth (k + 1) := by
  rw [list?.eq_def] at h
  split at h
  next items =>
    rw [depth_array_le_iff, List.forall_mem_map]
    refine ⟨by omega, fun x hx => ?_⟩
    obtain ⟨v, hv, hvx⟩ := Outcome.exists_of_mem_forall₂ (Outcome.mapM_eq_some_iff.mp h) hx
    have hlt := depth_lt_of_mem_array hv
    have hle := hitem v x hvx
    omega
  next => cases h

theorem depth_section?_le {item? : Json → Option α} {toJson : α → Json}
    (hitem : ∀ v x, item? v = some x → (toJson x).depth ≤ max v.depth k) {xs : List α}
    (h : section? item? j = some xs) :
    (Json.array (xs.map toJson)).depth ≤ max j.depth (k + 1) := by
  rw [section?.eq_def] at h
  split at h
  next members =>
    obtain ⟨v, hv, h⟩ := Option.bind_eq_some_iff.mp h
    have hlt := depth_lt_of_uniqueMember? hv
    have hle := depth_list?_le hitem h
    omega
  next => exact depth_list?_le hitem h

theorem depth_orDefault_lt {read? : Json → Option (List α)} {toJson : α → Json}
    (hread : ∀ v xs, read? v = some xs →
      (Json.array (xs.map toJson)).depth ≤ max v.depth (k + 1))
    {found : Option Json} (hfound : ∀ v, found = some v → v.depth < n) {xs : List α}
    (h : orDefault [] read? found = some xs) :
    (Json.array (xs.map toJson)).depth < max n (k + 2) := by
  cases found with
  | none =>
    cases h
    change 1 < max n (k + 2)
    omega
  | some v =>
    have hlt := hfound v rfl
    have hle := hread v xs h
    omega

end Parts

namespace Definition

variable {d : Definition τ}

theorem ofJson?_toJson (hflag : ["name", "type", flag, "label"].Nodup)
    (hfmt : ∀ t, fmt.decode? true (typeToJson t) = some t) (d : Definition τ) :
    ofJson? fmt flag (d.toJson typeToJson flag) = some d := by
  have hslots : (d.toJson typeToJson flag).slots? ["name", "type", flag, "label"] =
      some [some (.string d.name), some (typeToJson d.type), some (.bool d.required),
        some (localizedToJson d.label)] := slots?_object hflag
  rw [ofJson?, hslots]
  simp [orDefault, string?, bool?, hfmt, localized?_localizedToJson]

theorem lastWins_toJson (hflag : ["name", "type", flag, "label"].Nodup)
    (htype : ∀ t, (typeToJson t).lastWins = typeToJson t) (d : Definition τ) :
    (d.toJson typeToJson flag).lastWins = d.toJson typeToJson flag := by
  apply lastWins_object_eq_self
  · exact hflag
  · simp [htype, lastWins_localizedToJson]

theorem exists_type_of_ofJson? (h : ofJson? fmt flag j = some d) :
    ∃ v, v.depth < j.depth ∧ fmt.decode? true v = some d.type := by
  rw [ofJson?] at h
  obtain ⟨slots, hslots, h⟩ := Option.bind_eq_some_iff.mp h
  split at h
  next name type required label =>
    obtain ⟨_, -, h⟩ := Option.bind_eq_some_iff.mp h
    obtain ⟨t, ht, h⟩ := Option.bind_eq_some_iff.mp h
    obtain ⟨_, -, h⟩ := Option.bind_eq_some_iff.mp h
    obtain ⟨_, -, h⟩ := Option.bind_eq_some_iff.mp h
    cases h
    obtain ⟨v, rfl, hv⟩ := Option.bind_eq_some_iff.mp ht
    exact ⟨v, depth_lt_of_mem_slots? hslots (by simp), hv⟩
  next => cases h

theorem depth_toJson_le (hfmt : fmt.WritesShallow typeToJson) (h : ofJson? fmt flag j = some d) :
    (d.toJson typeToJson flag).depth ≤ j.depth := by
  obtain ⟨v, hlt, hv⟩ := exists_type_of_ofJson? h
  have hpos := TypeFormat.depth_pos_of_decode? hv
  have htype := hfmt.depth_toJson_le hv
  have hlabel := depth_localizedToJson_le d.label
  rw [toJson, depth_object_le_iff]
  simp only [List.forall_mem_cons, depth_string, depth_bool]
  exact ⟨by omega, by omega, by omega, by omega, by omega, List.forall_mem_nil _⟩

theorem depth_map_toJson_le (hfmt : fmt.WritesShallow typeToJson) {ds : List (Definition τ)}
    (h : list? (ofJson? fmt flag) j = some ds) :
    (Json.array (ds.map (toJson typeToJson flag))).depth ≤ max j.depth 1 := by
  apply depth_list?_le _ h
  intro v d hd
  rw [Nat.max_zero]
  exact depth_toJson_le hfmt hd

end Definition

namespace CustomFieldType

variable {t : CustomFieldType}

theorem ofJson?_toJson (t : CustomFieldType) : ofJson? t.toJson = some t := by
  have hflag : ["name", "type", "required", "label"].Nodup := by decide
  have htype (t : FieldType) : FieldType.format.decode? true t.toJson = some t :=
    FieldType.isSpelledBy.decode?_toJson true t
  have hfields := list?_map (Definition.ofJson?_toJson hflag htype)
  have hids := list?_map (fun s => (rfl : string? (.string s) = some s)) t.resourceTypeIds
  have hslots : t.toJson.slots? ["id", "key", "name", "resourceTypeIds", "fieldDefinitions"] =
      some [some (.string t.id), some (.string t.key), some (localizedToJson t.name),
        some (.array (t.resourceTypeIds.map .string)),
        some (.array (t.fields.map (Definition.toJson FieldType.toJson "required")))] :=
    slots?_object (by simp)
  rw [ofJson?, hslots]
  simp [orDefault, string?, hids, hfields, localized?_localizedToJson]

theorem lastWins_toJson (t : CustomFieldType) : t.toJson.lastWins = t.toJson := by
  have hflag : ["name", "type", "required", "label"].Nodup := by decide
  have htype (t : FieldType) : t.toJson.lastWins = t.toJson :=
    FieldType.isSpelledBy.lastWins_toJson t
  have hfields := lastWins_map (Definition.lastWins_toJson hflag htype)
  have hids := lastWins_map lastWins_string
  apply lastWins_object_eq_self
  · simp
  · simp [lastWins_localizedToJson, hids, hfields]

theorem exists_fields_of_ofJson? (h : ofJson? j = some t) :
    ∃ found, (∀ v, found = some v → v.depth < j.depth) ∧
      orDefault [] (list? (Definition.ofJson? FieldType.format "required")) found =
        some t.fields := by
  rw [ofJson?] at h
  obtain ⟨slots, hslots, h⟩ := Option.bind_eq_some_iff.mp h
  split at h
  next id key name resourceTypeIds fields =>
    obtain ⟨_, -, h⟩ := Option.bind_eq_some_iff.mp h
    obtain ⟨_, -, h⟩ := Option.bind_eq_some_iff.mp h
    obtain ⟨_, -, h⟩ := Option.bind_eq_some_iff.mp h
    obtain ⟨_, -, h⟩ := Option.bind_eq_some_iff.mp h
    obtain ⟨definitions, hdefinitions, h⟩ := Option.bind_eq_some_iff.mp h
    cases h
    refine ⟨fields, ?_, hdefinitions⟩
    rintro v rfl
    exact depth_lt_of_mem_slots? hslots (by simp)
  next => cases h

theorem depth_toJson_le (h : ofJson? j = some t) : t.toJson.depth ≤ max j.depth 2 := by
  obtain ⟨found, hfound, h⟩ := exists_fields_of_ofJson? h
  have hfields := depth_orDefault_lt
    (fun _ _ => Definition.depth_map_toJson_le FieldType.isSpelledBy.writesShallow) hfound h
  have hname := depth_localizedToJson_le t.name
  have hids := depth_map_string_le t.resourceTypeIds
  rw [toJson, depth_object_le_iff]
  simp only [List.forall_mem_cons, depth_string]
  exact ⟨by omega, by omega, by omega, by omega, by omega, hfields, List.forall_mem_nil _⟩

end CustomFieldType

namespace ProductType

variable {p : ProductType}

theorem ofJson?_toJson (p : ProductType) : ofJson? p.toJson = some p := by
  have hflag : ["name", "type", "isRequired", "label"].Nodup := by decide
  have htype (t : AttributeType) : AttributeType.format.decode? true t.toJson = some t :=
    AttributeType.isSpelledBy.decode?_toJson true t
  have hattributes := list?_map (Definition.ofJson?_toJson hflag htype)
  have hslots : p.toJson.slots? ["id", "key", "name", "description", "attributes"] =
      some [some (.string p.id), some (p.key.elim .null .string), some (.string p.name),
        some (.string p.description),
        some (.array (p.attributes.map (Definition.toJson AttributeType.toJson "isRequired")))] :=
    slots?_object (by simp)
  rw [ofJson?, hslots]
  simp [orDefault, string?, key?_elim, hattributes]

theorem lastWins_toJson (p : ProductType) : p.toJson.lastWins = p.toJson := by
  have hflag : ["name", "type", "isRequired", "label"].Nodup := by decide
  have htype (t : AttributeType) : t.toJson.lastWins = t.toJson :=
    AttributeType.isSpelledBy.lastWins_toJson t
  have hattributes := lastWins_map (Definition.lastWins_toJson hflag htype)
  apply lastWins_object_eq_self
  · simp
  · simp [hattributes, lastWins_elim]

theorem exists_attributes_of_ofJson? (h : ofJson? j = some p) :
    ∃ found, (∀ v, found = some v → v.depth < j.depth) ∧
      orDefault [] (list? (Definition.ofJson? AttributeType.format "isRequired")) found =
        some p.attributes := by
  rw [ofJson?] at h
  obtain ⟨slots, hslots, h⟩ := Option.bind_eq_some_iff.mp h
  split at h
  next id key name description attributes =>
    obtain ⟨_, -, h⟩ := Option.bind_eq_some_iff.mp h
    obtain ⟨_, -, h⟩ := Option.bind_eq_some_iff.mp h
    obtain ⟨_, -, h⟩ := Option.bind_eq_some_iff.mp h
    obtain ⟨_, -, h⟩ := Option.bind_eq_some_iff.mp h
    obtain ⟨definitions, hdefinitions, h⟩ := Option.bind_eq_some_iff.mp h
    cases h
    refine ⟨attributes, ?_, hdefinitions⟩
    rintro v rfl
    exact depth_lt_of_mem_slots? hslots (by simp)
  next => cases h

theorem depth_toJson_le (h : ofJson? j = some p) : p.toJson.depth ≤ max j.depth 2 := by
  obtain ⟨found, hfound, h⟩ := exists_attributes_of_ofJson? h
  have hattributes := depth_orDefault_lt
    (fun _ _ => Definition.depth_map_toJson_le AttributeType.isSpelledBy.writesShallow) hfound h
  rw [toJson, depth_object_le_iff]
  simp only [List.forall_mem_cons, depth_string, depth_elim]
  exact ⟨by omega, by omega, by omega, by omega, by omega, hattributes, List.forall_mem_nil _⟩

end ProductType

namespace Snapshot

theorem lastWins_toJson (s : Snapshot) : s.toJson.lastWins = s.toJson := by
  apply lastWins_object_eq_self
  · simp
  · simp [lastWins_map CustomFieldType.lastWins_toJson, lastWins_map ProductType.lastWins_toJson]

theorem ofJson_toJson (s : Snapshot) : ofJson s.toJson = .ok s := by
  have htypes : section? CustomFieldType.ofJson? (.array (s.types.map CustomFieldType.toJson)) =
      some s.types := list?_map CustomFieldType.ofJson?_toJson s.types
  have hproductTypes : section? ProductType.ofJson?
      (.array (s.productTypes.map ProductType.toJson)) = some s.productTypes :=
    list?_map ProductType.ofJson?_toJson s.productTypes
  rw [ofJson, lastWins_toJson, toJson]
  simp [KeyMap.lookup_cons_eq_ite, orDefault, htypes, hproductTypes]

theorem depth_toJson_le {s : Snapshot} (h : ofJson j = .ok s) :
    s.toJson.depth ≤ max j.depth 4 := by
  rw [ofJson] at h
  split at h
  next members hmembers =>
    have hfound : ∀ name v, members.lookup name = some v → v.depth < j.depth := by
      intro name v hv
      have hlast := depth_lastWins_le j
      rw [hmembers] at hlast
      exact Nat.lt_of_lt_of_le (depth_lt_of_lookup hv) hlast
    split at h
    next types productTypes htypes hproductTypes =>
      cases h
      have htypes := depth_orDefault_lt
        (fun _ _ => depth_section?_le fun _ _ => CustomFieldType.depth_toJson_le)
        (hfound "types") htypes
      have hproductTypes := depth_orDefault_lt
        (fun _ _ => depth_section?_le fun _ _ => ProductType.depth_toJson_le)
        (hfound "productTypes") hproductTypes
      rw [toJson, depth_object_le_iff]
      simp only [List.forall_mem_cons]
      exact ⟨by omega, htypes, hproductTypes, List.forall_mem_nil _⟩
    next => cases h
  next => cases h

/-- Every snapshot is read back from its JSON form. One that comes from a text is also read back
from the text that is written for this form, if that text gives the form again as long as it is not
nested too deep. -/
theorem ofJson_toJson_and_parse_write :
    (∀ s : Snapshot, ofJson s.toJson = .ok s) ∧
      ∀ (write : Json → String) (text : String) (s : Snapshot), parse text = .ok s →
        (s.toJson.depth ≤ Expecting.deepest → Json.read (write s.toJson) = .ok s.toJson) →
        parse (write s.toJson) = parse text := by
  refine ⟨ofJson_toJson, fun write text s hs hwrite => ?_⟩
  have hdepth : s.toJson.depth ≤ Expecting.deepest := by
    rw [parse] at hs
    split at hs
    next => cases hs
    next j hj =>
      have hread := depth_le_of_read hj
      have hwritten := depth_toJson_le hs
      rw [Expecting.deepest] at hread ⊢
      omega
  rw [parse, hwrite hdepth, hs]
  exact ofJson_toJson s

def hatsText : String :=
  "\x7b\"productTypes\":[[\"p\",null,\"Hat\",\"\",[[\"odd\",[\"set\",[\"blob\"]]]," ++
  "[\"brim\",[\"nested\",[\"q\"]],true,\x7b\"en\":\"\\\"Brim\\\"\"\x7d]]]]\x7d"

def hats : Snapshot where
  productTypes :=
    [{ id := "p", name := "Hat", attributes :=
      [{ name := "odd", type := .set .unknown },
       { name := "brim", type := .nested "q", required := true,
         label := .ofList [("en", "\"Brim\"")] }] }]

def hatsWritten : String :=
  "\x7b\"types\":[],\"productTypes\":[\x7b\"id\":\"p\",\"key\":null,\"name\":\"Hat\"," ++
  "\"description\":\"\",\"attributes\":[\x7b\"name\":\"odd\",\"type\":\x7b\"name\":\"set\"," ++
  "\"elementType\":\x7b\"name\":\"unknown\"\x7d\x7d,\"isRequired\":false,\"label\":\x7b\x7d\x7d," ++
  "\x7b\"name\":\"brim\",\"type\":\x7b\"name\":\"nested\",\"typeReference\":\x7b\"id\":\"q\"" ++
  "\x7d\x7d,\"isRequired\":true,\"label\":\x7b\"en\":\"\\\"Brim\\\"\"\x7d\x7d]\x7d]\x7d"

set_option maxRecDepth 10000 in
theorem parse_write_hats :
    parse hatsText = .ok hats ∧ Json.read hatsWritten = .ok hats.toJson ∧
      parse hatsWritten = parse hatsText := by
  have htext : hatsText = .ofList _ := append_eq_ofList rfl rfl
  have hwritten : hatsWritten = .ofList _ :=
    append_eq_ofList (append_eq_ofList (append_eq_ofList (append_eq_ofList rfl rfl) rfl) rfl) rfl
  have hparse : parse hatsText = .ok hats := by
    rw [parse, htext, Json.read_ofList]
    with_unfolding_all rfl
  have hread : Json.read hatsWritten = .ok hats.toJson := by
    rw [hwritten, Json.read_ofList]
    with_unfolding_all rfl
  exact ⟨hparse, hread,
    ofJson_toJson_and_parse_write.2 (fun _ => hatsWritten) hatsText hats hparse fun _ => hread⟩

end Snapshot

end SchemaProjection
