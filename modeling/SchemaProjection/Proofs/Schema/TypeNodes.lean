import Mathlib.Logic.Function.Iterate
import SchemaProjection.Proofs.Json.SameValue
import SchemaProjection.Proofs.Schema.TypeSpelling

namespace SchemaProjection

variable {τ : Type} {fmt : TypeFormat τ} {j v node : Json} {members : List (String × Json)}
  {name s id : String} {t : τ} {n : Nat} {indexed : Bool}

namespace Json

def member? (name : String) : Json → Option Json
  | object members => members.lookup name
  | _ => none

def IsTagged (tag : String) (j : Json) : Prop :=
  j.member? "name" = some (string tag)

end Json

namespace TypeSpelling

/-- A node of the type that a value is: the value itself or, if it is a set, a node of the type of
its elements. The number says how many sets are around the node. -/
inductive Node (sp : TypeSpelling τ) : Json → Nat → Json → Prop where
  | root (j : Json) : Node sp j 0 j
  | element {j v node : Json} {n : Nat} (htag : j.IsTagged sp.set)
    (hv : j.member? "elementType" = some v) (h : Node sp v n node) : Node sp j (n + 1) node

/-- The tag of a node is a text. The member that the tag asks for may be missing, but if it is there
it is of the right form. -/
structure WellFormed (sp : TypeSpelling τ) (node : Json) : Prop where
  tagged : ∃ s, node.IsTagged s
  reference : node.IsTagged sp.reference →
    ∀ v, node.member? "referenceTypeId" = some v → ∃ s, v = .string s
  nested : ∀ tag, sp.nested = some tag → node.IsTagged tag →
    ∀ v, node.member? "typeReference" = some v → ∃ id, v.member? "id" = some (.string id)

/-- A member that the tag asks for is not there. -/
inductive Incomplete (sp : TypeSpelling τ) (node : Json) : Prop where
  | set (htag : node.IsTagged sp.set) (h : node.member? "elementType" = none)
  | reference (htag : node.IsTagged sp.reference) (h : node.member? "referenceTypeId" = none)
  | nested {tag : String} (hnested : sp.nested = some tag) (htag : node.IsTagged tag)
    (h : node.member? "typeReference" = none)

/-- The node spells the type, which is no set. A tag that no type is written with is the unknown
type, and a reference that no type is written as is one to the unknown kind. -/
inductive Spells (sp : TypeSpelling τ) (node : Json) : τ → Prop where
  | plain {s : String} {t : τ} (htag : node.IsTagged s) (h : sp.toJson t = tagJson s) :
    Spells sp node t
  | unrecognised {s : String} (htag : node.IsTagged s) (h : ∀ t, ¬ (sp.toJson t).IsTagged s) :
    Spells sp node sp.unknown
  | reference {s : String} {t : τ} (htag : node.IsTagged sp.reference)
    (hkind : node.member? "referenceTypeId" = some (.string s))
    (h : sp.toJson t = sp.referenceJson s) : Spells sp node t
  | unrecognisedReference {s : String} (htag : node.IsTagged sp.reference)
    (hkind : node.member? "referenceTypeId" = some (.string s))
    (h : ∀ t, sp.toJson t ≠ sp.referenceJson s) : Spells sp node sp.unknownReference
  | nested {tag id : String} {v : Json} {t : τ} (hnested : sp.nested = some tag)
    (htag : node.IsTagged tag) (hv : node.member? "typeReference" = some v)
    (hid : v.member? "id" = some (.string id)) (h : sp.toJson t = nestedJson tag id) :
    Spells sp node t

/-- What is read off a value: nothing if one of its nodes is incomplete, and else the type that a
node spells, in the sets that are around the node. -/
structure Describes (sp : TypeSpelling τ) (j : Json) (read : Option τ) : Prop where
  none_iff : read = none ↔ ∃ n node, sp.Node j n node ∧ sp.Incomplete node
  some_iff : ∀ t, read = some t ↔
    ∃ n node leaf, sp.Node j n node ∧ sp.Spells node leaf ∧ t = sp.setOf^[n] leaf

end TypeSpelling

namespace Json

theorem uniqueMember?_eq_lookup (h : (members.map (·.1)).Nodup) (name : String) :
    uniqueMember? members name = members.lookup name := by
  cases hl : members.lookup name with
  | none =>
    have hnone : members.filter (·.1 == name) = [] := by
      rw [List.filter_eq_nil_iff]
      intro e he heq
      exact lookup_eq_none_iff_notMem.mp hl (beq_iff_eq.mp heq ▸ List.mem_map_of_mem he)
    rw [uniqueMember?, hnone]
  | some v => rw [uniqueMember?_of_mem h ((lookup_eq_some_iff_mem h).mp hl)]

theorem exists_object_of_member? (h : j.member? name = some v) :
    ∃ members, j = object members ∧ members.lookup name = some v := by
  cases j with
  | object members => exact ⟨members, rfl, h⟩
  | _ => cases h

theorem depth_lt_of_member? (h : j.member? name = some v) : v.depth < j.depth := by
  obtain ⟨members, rfl, hv⟩ := exists_object_of_member? h
  exact depth_lt_of_lookup hv

theorem lastWins_of_member? (hj : j.lastWins = j) (h : j.member? name = some v) :
    v.lastWins = v := by
  obtain ⟨members, rfl, hv⟩ := exists_object_of_member? h
  obtain ⟨hnames, hmembers⟩ := lastWins_object_eq_self_iff.mp hj
  exact hmembers (name, v) ((lookup_eq_some_iff_mem hnames).mp hv)

theorem IsTagged.unique {a b : String} (ha : j.IsTagged a) (hb : j.IsTagged b) : a = b :=
  string.inj (Option.some.inj (ha.symm.trans hb))

theorem typeTag?_of_isTagged (hj : j.lastWins = j) (h : j.IsTagged s) :
    j.typeTag? = some (string s) := by
  obtain ⟨members, rfl, hv⟩ := exists_object_of_member? h
  rw [typeTag?, uniqueMember?_eq_lookup (lastWins_object_eq_self_iff.mp hj).1, hv]

theorem typePayload?_of_isTagged (hj : j.lastWins = j) (h : j.IsTagged s) (name : String) :
    j.typePayload? name = j.member? name := by
  obtain ⟨members, rfl, -⟩ := exists_object_of_member? h
  rw [typePayload?, uniqueMember?_eq_lookup (lastWins_object_eq_self_iff.mp hj).1, member?]

theorem isBareType_of_isTagged (h : j.IsTagged s) : j.isBareType = true := by
  obtain ⟨members, rfl, -⟩ := exists_object_of_member? h
  rfl

theorem nestedId?_of_member? (hj : j.lastWins = j) (h : j.member? "id" = some (string id)) :
    j.nestedId? = some id := by
  obtain ⟨members, rfl, hid⟩ := exists_object_of_member? h
  have hnames := (lastWins_object_eq_self_iff.mp hj).1
  have hfilter := filter_name_of_nodup hnames ((lookup_eq_some_iff_mem hnames).mp hid)
  simp only [nestedId?, slots?, List.mapM_cons, List.mapM_nil, hfilter]
  rfl

end Json

namespace TypeFormat

/-- Only the tag and the member that it asks for are looked at. Where the tag is a text it makes no
difference whether it might be a position. -/
theorem decode?_of_isTagged (fmt : TypeFormat τ) (indexed : Bool) (hj : j.lastWins = j)
    (h : j.IsTagged s) :
    fmt.decode? indexed j = match (fmt.tags.lookup s).getD (.leaf fmt.unknown) with
      | .leaf t => some t
      | .reference => ((j.member? "referenceTypeId").bind (·.referenceName?)).map fmt.reference
      | .nested => ((j.member? "typeReference").bind (·.nestedId?)).map fmt.nested
      | .set => (j.member? "elementType").bind fun v => (fmt.decode? true v).map fmt.set := by
  rw [decode?_eq_bind, Json.typeTag?_of_isTagged hj h, Option.bind_some, tag?, Option.bind_some]
  cases (fmt.tags.lookup s).getD (.leaf fmt.unknown) with
  | leaf t => exact if_pos (Json.isBareType_of_isTagged h)
  | reference | nested | set => simp only [Json.typePayload?_of_isTagged hj h]

end TypeFormat

variable {sp : TypeSpelling τ}

namespace TypeSpelling

theorem isTagged_tagJson (s : String) : (tagJson s).IsTagged s :=
  rfl

theorem isTagged_referenceJson (sp : TypeSpelling τ) (s : String) :
    (sp.referenceJson s).IsTagged sp.reference :=
  rfl

theorem isTagged_nestedJson (s id : String) : (nestedJson s id).IsTagged s :=
  rfl

theorem isTagged_setJson (sp : TypeSpelling τ) (v : Json) : (sp.setJson v).IsTagged sp.set :=
  rfl

variable (hfmt : fmt.IsSpelledBy sp)

include hfmt

theorem exists_isTagged {tag : TypeTag τ} (h : fmt.tags.lookup s = some tag) :
    ∃ t, (sp.toJson t).IsTagged s := by
  cases tag with
  | leaf t =>
    refine ⟨t, ?_⟩
    rw [hfmt.toJson_of_lookup_leaf h]
    exact isTagged_tagJson s
  | set =>
    obtain rfl := hfmt.lookup_set_iff.mp h
    refine ⟨sp.setOf sp.unknown, ?_⟩
    rw [hfmt.toJson_set]
    exact isTagged_setJson sp _
  | reference =>
    obtain rfl := hfmt.lookup_reference_iff.mp h
    obtain ⟨kind, hw⟩ := hfmt.toJson_reference ""
    refine ⟨fmt.reference "", ?_⟩
    rw [hw]
    exact isTagged_referenceJson sp kind
  | nested =>
    refine ⟨fmt.nested "", ?_⟩
    rw [hfmt.toJson_nested_eq (hfmt.lookup_nested_iff.mp h)]
    exact isTagged_nestedJson s ""

/-- Beside the tags of the table only that of the unknown type is ever written. -/
theorem toJson_eq_tagJson_of_unlisted (hl : fmt.tags.lookup s = none)
    (h : (sp.toJson t).IsTagged s) : sp.toJson t = tagJson s := by
  have hother {a : String} {tag : TypeTag τ} (ha : fmt.tags.lookup a = some tag) :
      ¬ (sp.toJson t).IsTagged a := by
    intro htag
    rw [h.unique htag, ha] at hl
    cases hl
  cases hfmt.written t with
  | leaf hmem =>
    obtain ⟨⟨a, t⟩, he, rfl⟩ := List.mem_map.mp hmem
    have hw := hfmt.toJson_of_mem_leaves he
    exact absurd (hw ▸ isTagged_tagJson a) (hother (hfmt.lookup_leaf_iff.mpr he))
  | unknown =>
    obtain ⟨a, -, hw⟩ := hfmt.toJson_unknown
    rw [hw] at h ⊢
    rw [h.unique (isTagged_tagJson a)]
  | reference _ hw =>
    exact absurd (hw ▸ isTagged_referenceJson sp _) (hother (hfmt.lookup_reference_iff.mpr rfl))
  | nested hn id =>
    have hw := hfmt.toJson_nested_eq hn id
    exact absurd (hw ▸ isTagged_nestedJson _ id) (hother (hfmt.lookup_nested_iff.mpr hn))
  | @set t _ =>
    have hw := hfmt.toJson_set t
    exact absurd (hw ▸ isTagged_setJson sp _) (hother (hfmt.lookup_set_iff.mpr rfl))

theorem decode?_of_toJson_eq_tagJson (hj : node.lastWins = node) (htag : node.IsTagged s)
    (h : sp.toJson t = tagJson s) : fmt.decode? indexed node = some t := by
  have hread := hfmt.decode?_toJson true t
  rw [h, fmt.decode?_of_isTagged true rfl (isTagged_tagJson s)] at hread
  rw [fmt.decode?_of_isTagged indexed hj htag]
  cases hl : (fmt.tags.lookup s).getD (.leaf fmt.unknown) with
  | leaf leaf =>
    rw [hl] at hread
    exact hread
  | _ =>
    rw [hl] at hread
    cases hread

theorem decode?_of_unrecognised (hj : node.lastWins = node) (htag : node.IsTagged s)
    (h : ∀ t, ¬ (sp.toJson t).IsTagged s) : fmt.decode? indexed node = some sp.unknown := by
  rw [fmt.decode?_of_isTagged indexed hj htag]
  cases hl : fmt.tags.lookup s with
  | none => rw [Option.getD_none, hfmt.unknown]
  | some tag =>
    obtain ⟨t, ht⟩ := exists_isTagged hfmt hl
    exact absurd ht (h t)

theorem decode?_of_reference (hj : node.lastWins = node) (htag : node.IsTagged sp.reference)
    (hkind : node.member? "referenceTypeId" = some (.string s)) :
    fmt.decode? indexed node = some (fmt.reference s) := by
  rw [fmt.decode?_of_isTagged indexed hj htag, hfmt.lookup_reference_iff.mpr rfl, hkind]
  rfl

theorem decode?_of_nested {tag : String} (hnested : sp.nested = some tag)
    (hj : node.lastWins = node) (htag : node.IsTagged tag)
    (hv : node.member? "typeReference" = some v) (hid : v.member? "id" = some (.string id)) :
    fmt.decode? indexed node = some (fmt.nested id) := by
  have hread := Json.nestedId?_of_member? (Json.lastWins_of_member? hj hv) hid
  rw [fmt.decode?_of_isTagged indexed hj htag, hfmt.lookup_nested_iff.mpr hnested, hv]
  simp only [Option.getD_some, Option.bind_some, hread, Option.map_some]

theorem decode?_of_spells (hj : node.lastWins = node) (h : sp.Spells node t) :
    fmt.decode? indexed node = some t := by
  cases h with
  | plain htag h => exact decode?_of_toJson_eq_tagJson hfmt hj htag h
  | unrecognised htag h => exact decode?_of_unrecognised hfmt hj htag h
  | @reference s _ htag hkind h =>
    have hread := hfmt.decode?_toJson true t
    rw [h, decode?_of_reference hfmt (s := s) rfl (isTagged_referenceJson sp s) rfl] at hread
    rw [decode?_of_reference hfmt hj htag hkind, hread]
  | @unrecognisedReference s htag hkind h =>
    rw [decode?_of_reference hfmt hj htag hkind, (hfmt.reference_cases s).resolve_right (h _)]
  | @nested tag id v _ hnested htag hv hid h =>
    have hread := hfmt.decode?_toJson true t
    rw [h, decode?_of_nested hfmt hnested rfl (isTagged_nestedJson tag id) rfl rfl] at hread
    rw [decode?_of_nested hfmt hnested hj htag hv hid, hread]

theorem decode?_of_incomplete (hj : node.lastWins = node) (h : sp.Incomplete node) :
    fmt.decode? indexed node = none := by
  cases h with
  | set htag h =>
    rw [fmt.decode?_of_isTagged indexed hj htag, hfmt.lookup_set_iff.mpr rfl, h]
    rfl
  | reference htag h =>
    rw [fmt.decode?_of_isTagged indexed hj htag, hfmt.lookup_reference_iff.mpr rfl, h]
    rfl
  | nested hnested htag h =>
    rw [fmt.decode?_of_isTagged indexed hj htag, hfmt.lookup_nested_iff.mpr hnested, h]
    rfl

theorem incomplete_or_exists_spells (hwell : sp.WellFormed node)
    (hlast : ¬ (node.IsTagged sp.set ∧ ∃ v, node.member? "elementType" = some v)) :
    sp.Incomplete node ∨ ∃ t, sp.Spells node t := by
  obtain ⟨s, htag⟩ := hwell.tagged
  cases hl : fmt.tags.lookup s with
  | none =>
    by_cases h : ∃ t, (sp.toJson t).IsTagged s
    · obtain ⟨t, ht⟩ := h
      exact .inr ⟨t, .plain htag (toJson_eq_tagJson_of_unlisted hfmt hl ht)⟩
    · exact .inr ⟨sp.unknown, .unrecognised htag (not_exists.mp h)⟩
  | some tag =>
    cases tag with
    | leaf t => exact .inr ⟨t, .plain htag (hfmt.toJson_of_lookup_leaf hl)⟩
    | set =>
      obtain rfl := hfmt.lookup_set_iff.mp hl
      exact .inl (.set htag (Option.eq_none_iff_forall_ne_some.mpr fun v hv => hlast ⟨htag, v, hv⟩))
    | reference =>
      obtain rfl := hfmt.lookup_reference_iff.mp hl
      cases hv : node.member? "referenceTypeId" with
      | none => exact .inl (.reference htag hv)
      | some v =>
        obtain ⟨kind, rfl⟩ := hwell.reference htag v hv
        by_cases h : ∃ t, sp.toJson t = sp.referenceJson kind
        · obtain ⟨t, ht⟩ := h
          exact .inr ⟨t, .reference htag hv ht⟩
        · exact .inr ⟨_, .unrecognisedReference htag hv (not_exists.mp h)⟩
    | nested =>
      have hnested := hfmt.lookup_nested_iff.mp hl
      cases hv : node.member? "typeReference" with
      | none => exact .inl (.nested hnested htag hv)
      | some v =>
        obtain ⟨id, hid⟩ := hwell.nested s hnested htag v hv
        exact .inr ⟨_, .nested hnested htag hv hid (hfmt.toJson_nested_eq hnested id)⟩

/-- Reading a value is reading any of its nodes, in the sets that are around it. -/
theorem decode?_of_node (hj : j.lastWins = j) (h : sp.Node j n node) (ht : node.IsTagged s) :
    fmt.decode? indexed j = (fmt.decode? true node).map sp.setOf^[n] := by
  induction h generalizing indexed with
  | root j =>
    rw [fmt.decode?_of_isTagged indexed hj ht, fmt.decode?_of_isTagged true hj ht]
    exact Option.map_id'.symm
  | element htag hv _ ih =>
    rw [fmt.decode?_of_isTagged indexed hj htag, hfmt.lookup_set_iff.mpr rfl, hv, Option.getD_some]
    simp only [Option.bind_some]
    rw [ih (Json.lastWins_of_member? hj hv) ht, hfmt.setOf, Option.map_map,
      Function.iterate_succ']

omit hfmt in
theorem lastWins_of_node (hj : j.lastWins = j) (h : sp.Node j n node) : node.lastWins = node := by
  induction h with
  | root j => exact hj
  | element _ hv _ ih => exact ih (Json.lastWins_of_member? hj hv)

omit hfmt in
theorem exists_last_node (sp : TypeSpelling τ) (j : Json) :
    ∃ n node, sp.Node j n node ∧
      ¬ (node.IsTagged sp.set ∧ ∃ v, node.member? "elementType" = some v) := by
  by_cases h : j.IsTagged sp.set ∧ ∃ v, j.member? "elementType" = some v
  · obtain ⟨htag, v, hv⟩ := h
    have hdepth := Json.depth_lt_of_member? hv
    obtain ⟨n, node, hnode, hlast⟩ := exists_last_node sp v
    exact ⟨n + 1, node, .element htag hv hnode, hlast⟩
  · exact ⟨0, j, .root j, h⟩
termination_by j.depth

theorem describes_decode? (hj : j.lastWins = j)
    (hwell : ∀ n node, sp.Node j n node → sp.WellFormed node) :
    sp.Describes j (fmt.decode? indexed j) := by
  have hread {n : Nat} {node : Json} (hnode : sp.Node j n node) :
      fmt.decode? indexed j = (fmt.decode? true node).map sp.setOf^[n] := by
    obtain ⟨s, hs⟩ := (hwell n node hnode).tagged
    exact decode?_of_node hfmt hj hnode hs
  obtain ⟨n, node, hnode, hlast⟩ := exists_last_node sp j
  have hfound := incomplete_or_exists_spells hfmt (hwell n node hnode) hlast
  have hnodeWins := lastWins_of_node hj hnode
  have hnone (h : fmt.decode? indexed j = none) : sp.Incomplete node := by
    obtain hincomplete | ⟨t, ht⟩ := hfound
    · exact hincomplete
    · rw [hread hnode, decode?_of_spells hfmt hnodeWins ht] at h
      cases h
  have hsome {t : τ} (h : fmt.decode? indexed j = some t) :
      ∃ leaf, sp.Spells node leaf ∧ t = sp.setOf^[n] leaf := by
    obtain hincomplete | ⟨leaf, hleaf⟩ := hfound
    · rw [hread hnode, decode?_of_incomplete hfmt hnodeWins hincomplete] at h
      cases h
    · rw [hread hnode, decode?_of_spells hfmt hnodeWins hleaf] at h
      exact ⟨leaf, hleaf, (Option.some.inj h).symm⟩
  constructor
  · constructor
    · exact fun h => ⟨n, node, hnode, hnone h⟩
    · rintro ⟨m, other, hother, h⟩
      rw [hread hother, decode?_of_incomplete hfmt (lastWins_of_node hj hother) h, Option.map_none]
  · intro t
    constructor
    · exact fun h => ⟨n, node, (hsome h).imp fun leaf hleaf => ⟨hnode, hleaf⟩⟩
    · rintro ⟨m, other, leaf, hother, hleaf, rfl⟩
      rw [hread hother, decode?_of_spells hfmt (lastWins_of_node hj hother) hleaf, Option.map_some]

end TypeSpelling

/-- A value without repeated members is read as an attribute type, and as a field type, if none of
its nodes lacks what its tag asks for, and then as the type that its last node spells, in as many
sets as lead there. -/
theorem describes_types (indexed : Bool) (hj : j.lastWins = j) :
    ((∀ n node, AttributeType.spelling.Node j n node → AttributeType.spelling.WellFormed node) →
      AttributeType.spelling.Describes j (AttributeType.format.decode? indexed j)) ∧
    ((∀ n node, FieldType.spelling.Node j n node → FieldType.spelling.WellFormed node) →
      FieldType.spelling.Describes j (FieldType.format.decode? indexed j)) :=
  ⟨TypeSpelling.describes_decode? AttributeType.isSpelledBy hj,
    TypeSpelling.describes_decode? FieldType.isSpelledBy hj⟩

def galaxyNode : Json :=
  .object [("elementType", .null), ("name", .string "reference"),
    ("referenceTypeId", .string "galaxy"), ("typeReference", .natural 5)]

def galaxies : Json :=
  .object [("name", .string "set"),
    ("elementType", .object [("name", .string "set"), ("elementType", galaxyNode)])]

theorem wellFormed_galaxies :
    ∀ n node, AttributeType.spelling.Node galaxies n node →
      AttributeType.spelling.WellFormed node := by
  have hset (v : Json) : AttributeType.spelling.WellFormed
      (.object [("name", .string "set"), ("elementType", v)]) := by
    refine ⟨⟨"set", rfl⟩, fun htag => ?_, fun tag hnested htag => ?_⟩
    · exact absurd (htag.unique (b := "set") rfl) (by decide)
    · cases hnested
      exact absurd (htag.unique (b := "set") rfl) (by decide)
  intro n node hnode
  obtain _ | ⟨-, hv, hnode⟩ := hnode
  · exact hset _
  cases hv
  obtain _ | ⟨-, hv, hnode⟩ := hnode
  · exact hset _
  cases hv
  obtain _ | ⟨htag, -, -⟩ := hnode
  · refine ⟨⟨"reference", rfl⟩, fun _ v hv => ⟨"galaxy", ?_⟩, fun tag hnested htag => ?_⟩
    · cases hv
      rfl
    · cases hnested
      exact absurd (htag.unique (b := "reference") rfl) (by decide)
  · exact absurd (htag.unique (b := "reference") rfl) (by decide)

theorem describes_types_galaxies :
    galaxies.lastWins = galaxies ∧
      (∀ n node, AttributeType.spelling.Node galaxies n node →
        AttributeType.spelling.WellFormed node) ∧
      AttributeType.format.decode? false galaxies = some (.set (.set (.reference .unknown))) ∧
      (∀ n node, FieldType.spelling.Node galaxies n node → FieldType.spelling.WellFormed node) ∧
      FieldType.format.decode? false galaxies = some .unknown := by
  have hwins : galaxies.lastWins = galaxies := by
    rfl
  have hfields (n : Nat) (node : Json) (hnode : FieldType.spelling.Node galaxies n node) :
      FieldType.spelling.WellFormed node := by
    obtain _ | ⟨htag, -, -⟩ := hnode
    · refine ⟨⟨"set", rfl⟩, fun htag => ?_, fun tag hnested => nomatch hnested⟩
      exact absurd (htag.unique (b := "set") rfl) (by decide)
    · exact absurd (htag.unique (b := "set") rfl) (by decide)
  obtain ⟨hattribute, hfield⟩ := describes_types false hwins
  refine ⟨hwins, wellFormed_galaxies, ?_, hfields, ?_⟩
  · refine ((hattribute wellFormed_galaxies).some_iff _).mpr
      ⟨2, galaxyNode, _, .element rfl rfl (.element rfl rfl (.root _)),
        .unrecognisedReference rfl rfl fun t h => ?_, rfl⟩
    change t.toJson = .object [("name", .string "reference"), ("referenceTypeId", .string "galaxy")]
      at h
    cases t with
    | reference kind => cases kind <;> simp [AttributeType.toJson, AttributeReference.name] at h
    | _ => simp [AttributeType.toJson] at h
  · refine ((hfield hfields).some_iff _).mpr
      ⟨0, galaxies, _, .root _, .unrecognised (s := "set") rfl fun t h => ?_, rfl⟩
    cases t with
    | _ => exact absurd (h.unique rfl) (by decide)

end SchemaProjection
