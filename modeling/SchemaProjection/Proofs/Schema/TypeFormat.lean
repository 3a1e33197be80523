import SchemaProjection.Proofs.Json.Value
import SchemaProjection.Schema.TypeFormat
import SchemaProjection.Schema.Writing

namespace SchemaProjection

variable {τ : Type} {fmt : TypeFormat τ} {toJson : τ → Json} {indexed : Bool} {t : τ}
  {name s id : String} {j v : Json}

namespace Json

theorem depth_pos_of_typeTag? (h : j.typeTag? = some v) : 0 < j.depth := by
  cases j with
  | array items => exact Nat.succ_pos _
  | object members => exact Nat.succ_pos _
  | _ => cases h

theorem uniqueMember?_of_mem {members : List (String × Json)} {name : String} {v : Json}
    (h : (members.map (·.1)).Nodup) (hv : (name, v) ∈ members) :
    uniqueMember? members name = some v := by
  rw [uniqueMember?, filter_name_of_nodup h hv]

theorem depth_lt_of_uniqueMember? {members : List (String × Json)}
    (h : uniqueMember? members name = some v) : v.depth < (object members).depth := by
  rw [uniqueMember?] at h
  split at h
  next hf =>
    cases h
    exact depth_lt_of_mem_object (mem_of_filter_eq_singleton hf)
  next => cases h

theorem depth_lt_of_typePayload? (h : j.typePayload? name = some v) : v.depth < j.depth := by
  rw [typePayload?.eq_def] at h
  split at h
  next =>
    cases h
    exact depth_lt_of_mem_array (List.mem_cons_of_mem _ List.mem_cons_self)
  next => exact depth_lt_of_uniqueMember? h
  next => cases h

theorem depth_pos_of_nestedId? (h : j.nestedId? = some id) : 0 < j.depth := by
  rw [nestedId?] at h
  split at h
  next hs => exact Nat.zero_lt_of_lt (depth_lt_of_mem_slots? hs (List.mem_singleton_self _))
  next => cases h

end Json

namespace TypeFormat

theorem decode?_eq_bind (fmt : TypeFormat τ) (indexed : Bool) (j : Json) :
    fmt.decode? indexed j = (j.typeTag?.bind (fmt.tag? indexed)).bind fun
      | .leaf t => if j.isBareType then some t else none
      | .reference => ((j.typePayload? "referenceTypeId").bind (·.referenceName?)).map fmt.reference
      | .nested => ((j.typePayload? "typeReference").bind (·.nestedId?)).map fmt.nested
      | .set => (j.typePayload? "elementType").bind fun v => (fmt.decode? true v).map fmt.set := by
  rw [decode?]
  split
  next h => rw [h]; rfl
  next h => rw [h]; rfl
  next h => rw [h]; rfl
  next h => rw [h]; rfl
  next h =>
    rw [h]
    split
    next he => simp [he]
    next he => simp [he]

theorem tag?_of_lookup {tag : TypeTag τ} (hj : j.typeTag? = some (.string name))
    (h : fmt.tags.lookup name = some tag) : j.typeTag?.bind (fmt.tag? indexed) = some tag := by
  rw [hj, Option.bind_some, tag?, h, Option.getD_some]

theorem decode?_leaf (h : fmt.tags.lookup name = some (.leaf t)) :
    fmt.decode? indexed (.object [("name", .string name)]) = some t := by
  rw [decode?_eq_bind, tag?_of_lookup rfl h]
  rfl

theorem decode?_unknown (h : fmt.tags.lookup name = none) :
    fmt.decode? indexed (.object [("name", .string name)]) = some fmt.unknown := by
  have htag : (Json.object [("name", .string name)]).typeTag? = some (.string name) := rfl
  rw [decode?_eq_bind, htag, Option.bind_some, tag?, h]
  rfl

theorem decode?_reference (h : fmt.tags.lookup name = some .reference) :
    fmt.decode? indexed (.object [("name", .string name), ("referenceTypeId", .string s)]) =
      some (fmt.reference s) := by
  rw [decode?_eq_bind, tag?_of_lookup rfl h]
  rfl

theorem decode?_set (h : fmt.tags.lookup name = some .set) :
    fmt.decode? indexed (.object [("name", .string name), ("elementType", v)]) =
      (fmt.decode? true v).map fmt.set := by
  rw [decode?_eq_bind, tag?_of_lookup rfl h]
  rfl

theorem decode?_nested (h : fmt.tags.lookup name = some .nested) :
    fmt.decode? indexed
        (.object [("name", .string name), ("typeReference", .object [("id", .string id)])]) =
      some (fmt.nested id) := by
  rw [decode?_eq_bind, tag?_of_lookup rfl h]
  rfl

/-- The types that have no other type in them are written as deep as they have to be found. -/
structure WritesShallow (fmt : TypeFormat τ) (toJson : τ → Json) : Prop where
  leaf : ∀ e ∈ fmt.tags, ∀ t, e.2 = .leaf t → (toJson t).depth ≤ 1
  unknown : (toJson fmt.unknown).depth ≤ 1
  reference : ∀ s, (toJson (fmt.reference s)).depth ≤ 1
  nested : ∀ id, (toJson (fmt.nested id)).depth ≤ 2
  set : ∀ t, (toJson (fmt.set t)).depth ≤ (toJson t).depth + 1

theorem depth_pos_of_decode? (h : fmt.decode? indexed j = some t) : 0 < j.depth := by
  rw [decode?_eq_bind] at h
  obtain ⟨tag, htag, -⟩ := Option.bind_eq_some_iff.mp h
  obtain ⟨v, hv, -⟩ := Option.bind_eq_some_iff.mp htag
  exact Json.depth_pos_of_typeTag? hv

namespace WritesShallow

theorem depth_le_of_tag? (hfmt : fmt.WritesShallow toJson)
    (h : fmt.tag? indexed v = some (.leaf t)) : (toJson t).depth ≤ 1 := by
  have hfound : ∀ found : Option (TypeTag τ),
      (∀ tag, found = some tag → ∃ e ∈ fmt.tags, e.2 = tag) →
      found.getD (.leaf fmt.unknown) = .leaf t → (toJson t).depth ≤ 1 := by
    intro found hmem heq
    cases found with
    | none =>
      cases heq
      exact hfmt.unknown
    | some tag =>
      obtain ⟨e, he, htag⟩ := hmem tag rfl
      exact hfmt.leaf e he t (htag.trans heq)
  rw [tag?.eq_def] at h
  split at h
  next s =>
    apply hfound (fmt.tags.lookup s) _ (Option.some.inj h)
    intro tag hs
    obtain ⟨before, after, heq, -⟩ := List.lookup_eq_some_iff.mp hs
    exact ⟨(s, tag), by simp [heq], rfl⟩
  next n =>
    obtain ⟨-, h⟩ := Option.ite_none_right_eq_some.mp h
    apply hfound (fmt.tags[n]?.map (·.2)) _ (Option.some.inj h)
    intro tag hn
    obtain ⟨e, he, heq⟩ := Option.map_eq_some_iff.mp hn
    exact ⟨e, List.mem_of_getElem? he, heq⟩
  next => cases h

theorem depth_toJson_le (hfmt : fmt.WritesShallow toJson) (h : fmt.decode? indexed j = some t) :
    (toJson t).depth ≤ j.depth := by
  fun_induction decode? fmt indexed j generalizing t with
  | case1 => cases h
  | case2 indexed j leaf htag =>
    cases h
    obtain ⟨v, hv, htag⟩ := Option.bind_eq_some_iff.mp htag
    have hpos := Json.depth_pos_of_typeTag? hv
    have hleaf := hfmt.depth_le_of_tag? htag
    omega
  | case3 => cases h
  | case4 indexed j =>
    obtain ⟨s, hs, rfl⟩ := Option.map_eq_some_iff.mp h
    obtain ⟨v, hv, -⟩ := Option.bind_eq_some_iff.mp hs
    have hlt := Json.depth_lt_of_typePayload? hv
    have hreference := hfmt.reference s
    omega
  | case5 indexed j =>
    obtain ⟨id, hid, rfl⟩ := Option.map_eq_some_iff.mp h
    obtain ⟨v, hv, hid⟩ := Option.bind_eq_some_iff.mp hid
    have hlt := Json.depth_lt_of_typePayload? hv
    have hpos := Json.depth_pos_of_nestedId? hid
    have hnested := hfmt.nested id
    omega
  | case6 => cases h
  | case7 indexed j htag element hv ih =>
    obtain ⟨t, ht, rfl⟩ := Option.map_eq_some_iff.mp h
    have hlt := Json.depth_lt_of_typePayload? hv
    have hset := hfmt.set t
    have hle := ih ht
    omega

end WritesShallow

end TypeFormat

end SchemaProjection
