import SchemaProjection.Proofs.Json.SameValue
import SchemaProjection.Proofs.KeyMap
import SchemaProjection.Proofs.Schema.TypeFormat
import SchemaProjection.Schema.Reading

namespace SchemaProjection.Json

variable {α : Type} {v w : Json} {members members' : List (String × Json)}
  {found found' : Option Json}

theorem SameValue.uniqueMember? (h : (Json.object members).SameValue (.object members'))
    (name : String) :
    Option.Rel SameValue (uniqueMember? members name) (Json.uniqueMember? members' name) := by
  rw [Json.uniqueMember?, Json.uniqueMember?]
  obtain ⟨hnone, hnone'⟩ | ⟨v, w, hv, hw, h⟩ := h.filter name
  · rw [hnone, hnone']
    exact .none
  · rw [hv, hw]
    exact .some h

section Parts

variable {item? : Json → Option α}

theorem respects_string? : Respects string? := by
  intro v w h
  cases h <;> rfl

theorem respects_bool? : Respects bool? := by
  intro v w h
  cases h <;> rfl

theorem respects_list? (hitem : Respects item?) : Respects (list? item?) := by
  intro v w h
  cases h with
  | array h => exact Outcome.mapM_eq_mapM_of_forall₂ h hitem
  | _ => rfl

theorem respects_section? (hitem : Respects item?) : Respects (section? item?) := by
  intro v w h
  cases h with
  | array h => exact respects_list? hitem _ _ (.array h)
  | object hnames hvalues hperm =>
    have h := SameValue.object hnames hvalues hperm
    exact bind_eq_bind_of_rel (h.uniqueMember? "results") (respects_list? hitem)
  | _ => rfl

theorem orDefault_eq_of_rel (default : α) (h : Option.Rel SameValue found found')
    (hitem : Respects item?) : orDefault default item? found = orDefault default item? found' := by
  cases h with
  | none => rfl
  | some h => exact hitem _ _ h

theorem key?_eq_of_rel (h : Option.Rel SameValue found found') : key? found = key? found' := by
  cases h with
  | none => rfl
  | some h => cases h <;> rfl

theorem mapM_of_perm {β γ : Type} {f : β → Option γ} {xs ys : List β} (hperm : xs.Perm ys)
    {as : List γ} (h : xs.mapM f = some as) : ∃ bs, ys.mapM f = some bs ∧ as.Perm bs := by
  obtain ⟨bs, hbs, hp⟩ := List.perm_comp_forall₂ hperm.symm (Outcome.mapM_eq_some_iff.mp h)
  exact ⟨bs, Outcome.mapM_eq_some_iff.mpr hbs, hp.symm⟩

theorem localized?_of_perm (hnames : (members.map (·.1)).Nodup) (hperm : members.Perm members') :
    localized? (.object members) = localized? (.object members') := by
  rw [localized?, localized?]
  cases hx : members.mapM fun e : String × Json => e.2.string?.map (e.1, ·) with
  | none =>
    cases hy : members'.mapM fun e : String × Json => e.2.string?.map (e.1, ·) with
    | none => rfl
    | some ys =>
      obtain ⟨xs, hxs, -⟩ := mapM_of_perm hperm.symm hy
      cases hx.symm.trans hxs
  | some xs =>
    obtain ⟨ys, hys, hp⟩ := mapM_of_perm hperm hx
    have hkeys : members.map (·.1) = xs.map (·.1) := by
      apply Outcome.map_eq_map_of_forall₂ (Outcome.mapM_eq_some_iff.mp hx)
      intro e x he
      obtain ⟨_, -, rfl⟩ := Option.map_eq_some_iff.mp he
      rfl
    rw [hys]
    exact congrArg some (KeyMap.ofList_eq_of_perm (hkeys ▸ hnames) hp)

theorem respects_localized? : Respects localized? := by
  intro v w h
  cases h with
  | @object members members' rearranged hnames hvalues hperm =>
    have hsame : localized? (.object members) = localized? (.object rearranged) := by
      apply congrArg (Option.map KeyMap.ofList)
      apply Outcome.mapM_eq_mapM_of_forall₂ hvalues
      rintro _ _ ⟨h⟩
      exact congrArg (Option.map _) (respects_string? _ _ h)
    have hrearranged : (rearranged.map (·.1)).Nodup := by
      rwa [← names_of_named hvalues]
    rw [hsame, localized?_of_perm hrearranged hperm]
  | _ => rfl

end Parts

section Types

variable {τ : Type}

theorem SameValue.typeTag? (h : v.SameValue w) :
    Option.Rel SameValue v.typeTag? w.typeTag? := by
  cases h with
  | array h =>
    cases h with
    | nil => exact .none
    | cons h _ => exact .some h
  | object hnames hvalues hperm =>
    exact (SameValue.object hnames hvalues hperm).uniqueMember? "name"
  | _ => exact .none

theorem respects_tag? (fmt : TypeFormat τ) (indexed : Bool) : Respects (fmt.tag? indexed) := by
  intro v w h
  cases h <;> rfl

theorem respects_isBareType : Respects isBareType := by
  intro v w h
  cases h with
  | array h =>
    obtain _ | ⟨_, _ | _⟩ := h
    all_goals rfl
  | _ => rfl

theorem SameValue.typePayload? (h : v.SameValue w) (name : String) :
    Option.Rel SameValue (v.typePayload? name) (w.typePayload? name) := by
  cases h with
  | array h =>
    obtain _ | ⟨_, _ | ⟨h, _ | _⟩⟩ := h
    · exact .none
    · exact .none
    · exact .some h
    · exact .none
  | object hnames hvalues hperm =>
    exact (SameValue.object hnames hvalues hperm).uniqueMember? name
  | _ => exact .none

theorem respects_referenceName? : Respects referenceName? := by
  intro v w h
  cases h with
  | @object members members' rearranged hnames hvalues hperm =>
    obtain _ | ⟨⟨h⟩, _ | _⟩ := hvalues
    · rw [List.nil_perm.mp hperm]
    · rw [← hperm.singleton_eq]
      cases h with
      | @object inner inner' rearranged _ hvalues hperm =>
        obtain _ | _ := hvalues
        · rw [List.nil_perm.mp hperm]
        · cases inner' with
          | nil => cases hperm.eq_nil
          | cons => rfl
      | _ => rfl
    · obtain _ | ⟨e, _ | _⟩ := members'
      · cases hperm.eq_nil
      · cases List.perm_singleton.mp hperm
      · simp [referenceName?]
  | _ => rfl

theorem respects_nestedId? : Respects nestedId? := by
  intro v w h
  have hslots := h.slots? ["id"]
  rw [nestedId?, nestedId?]
  generalize v.slots? ["id"] = slots at hslots
  generalize w.slots? ["id"] = slots' at hslots
  cases hslots with
  | none => rfl
  | some h =>
    obtain _ | ⟨h | _, _ | _⟩ := h
    · rfl
    · cases h <;> rfl
    · cases h <;> rfl
    · rfl
    · rfl

end Types

end SchemaProjection.Json

namespace SchemaProjection

open Json

variable {τ : Type} {fmt : TypeFormat τ}

theorem TypeFormat.decode?_of_sameValue (indexed : Bool) {v w : Json} (h : v.SameValue w) :
    fmt.decode? indexed v = fmt.decode? indexed w := by
  have htag : v.typeTag?.bind (fmt.tag? indexed) = w.typeTag?.bind (fmt.tag? indexed) :=
    bind_eq_bind_of_rel h.typeTag? (respects_tag? fmt indexed)
  have hpayload {α : Type} {f : Json → Option α} (hf : Respects f) (name : String) :
      (v.typePayload? name).bind f = (w.typePayload? name).bind f :=
    bind_eq_bind_of_rel (h.typePayload? name) hf
  rw [decode?_eq_bind, decode?_eq_bind, htag]
  congr 1
  funext tag
  cases tag with
  | leaf t => simp only [respects_isBareType v w h]
  | reference => simp only [hpayload respects_referenceName?]
  | nested => simp only [hpayload respects_nestedId?]
  | set =>
    have helement := h.typePayload? "elementType"
    generalize hv : v.typePayload? "elementType" = element at helement ⊢
    generalize w.typePayload? "elementType" = element' at helement ⊢
    cases helement with
    | none => rfl
    | some h =>
      have hdepth := depth_lt_of_typePayload? hv
      exact congrArg (Option.map fmt.set) (decode?_of_sameValue true h)
termination_by v.depth

theorem Definition.respects_ofJson? (fmt : TypeFormat τ) (flag : String) :
    Respects (Definition.ofJson? fmt flag) := by
  intro v w h
  rw [Definition.ofJson?, Definition.ofJson?]
  apply bind_eq_bind_of_rel (h.slots? _)
  intro slots slots' hslots
  obtain _ | ⟨hname, _ | ⟨htype, _ | ⟨hrequired, _ | ⟨hlabel, _ | _⟩⟩⟩⟩ := hslots
  -- only lists of four slots are read
  case cons.cons.cons.cons.nil =>
    have hname := bind_eq_bind_of_rel hname respects_string?
    have htype := bind_eq_bind_of_rel htype (fun _ _ h => fmt.decode?_of_sameValue true h)
    have hrequired := orDefault_eq_of_rel false hrequired respects_bool?
    have hlabel := orDefault_eq_of_rel ∅ hlabel respects_localized?
    simp only [hname, htype, hrequired, hlabel]
  all_goals rfl

theorem CustomFieldType.respects_ofJson? : Respects CustomFieldType.ofJson? := by
  intro v w h
  rw [CustomFieldType.ofJson?, CustomFieldType.ofJson?]
  apply bind_eq_bind_of_rel (h.slots? _)
  intro slots slots' hslots
  obtain _ | ⟨hid, _ | ⟨hkey, _ | ⟨hname, _ | ⟨hids, _ | ⟨hfields, _ | _⟩⟩⟩⟩⟩ := hslots
  case cons.cons.cons.cons.cons.nil =>
    have hid := bind_eq_bind_of_rel hid respects_string?
    have hkey := bind_eq_bind_of_rel hkey respects_string?
    have hname := orDefault_eq_of_rel ∅ hname respects_localized?
    have hids := orDefault_eq_of_rel [] hids (respects_list? respects_string?)
    have hfields := orDefault_eq_of_rel [] hfields
      (respects_list? (Definition.respects_ofJson? FieldType.format "required"))
    simp only [hid, hkey, hname, hids, hfields]
  all_goals rfl

theorem ProductType.respects_ofJson? : Respects ProductType.ofJson? := by
  intro v w h
  rw [ProductType.ofJson?, ProductType.ofJson?]
  apply bind_eq_bind_of_rel (h.slots? _)
  intro slots slots' hslots
  obtain _ | ⟨hid, _ | ⟨hkey, _ | ⟨hname, _ | ⟨hdescription, _ | ⟨hattributes, _ | _⟩⟩⟩⟩⟩ := hslots
  case cons.cons.cons.cons.cons.nil =>
    have hid := bind_eq_bind_of_rel hid respects_string?
    have hkey := key?_eq_of_rel hkey
    have hname := bind_eq_bind_of_rel hname respects_string?
    have hdescription := orDefault_eq_of_rel "" hdescription respects_string?
    have hattributes := orDefault_eq_of_rel [] hattributes (respects_list?
      (Definition.respects_ofJson? AttributeType.format "isRequired"))
    simp only [hid, hkey, hname, hdescription, hattributes]
  all_goals rfl

end SchemaProjection
