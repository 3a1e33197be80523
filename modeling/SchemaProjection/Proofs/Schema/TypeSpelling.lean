import SchemaProjection.Proofs.KeyMap
import SchemaProjection.Proofs.Schema.TypeFormat

namespace SchemaProjection

variable {τ : Type} {fmt : TypeFormat τ} {s id : String} {t : τ}

/-- How a family of types is spelled: what its types are written as, and the tags that ask for one
more member. A family may have no nested types. -/
structure TypeSpelling (τ : Type) where
  toJson : τ → Json
  set : String
  reference : String
  nested : Option String
  setOf : τ → τ
  unknown : τ
  unknownReference : τ

variable {sp : TypeSpelling τ}

def AttributeType.spelling : TypeSpelling AttributeType where
  toJson := AttributeType.toJson
  set := "set"
  reference := "reference"
  nested := some "nested"
  setOf := .set
  unknown := .unknown
  unknownReference := .reference .unknown

def FieldType.spelling : TypeSpelling FieldType where
  toJson := FieldType.toJson
  set := "Set"
  reference := "Reference"
  nested := none
  setOf := .set
  unknown := .unknown
  unknownReference := .reference .unknown

namespace TypeSpelling

def tagJson (tag : String) : Json :=
  .object [("name", .string tag)]

def referenceJson (sp : TypeSpelling τ) (kind : String) : Json :=
  .object [("name", .string sp.reference), ("referenceTypeId", .string kind)]

def nestedJson (tag id : String) : Json :=
  .object [("name", .string tag), ("typeReference", .object [("id", .string id)])]

def setJson (sp : TypeSpelling τ) (element : Json) : Json :=
  .object [("name", .string sp.set), ("elementType", element)]

def tags (sp : TypeSpelling τ) (leaves : List (String × τ)) : List (String × TypeTag τ) :=
  leaves.map (fun e => (e.1, .leaf e.2)) ++ [(sp.reference, .reference), (sp.set, .set)] ++
    sp.nested.toList.map fun tag => (tag, .nested)

theorem mem_tags_iff {leaves : List (String × τ)} {tag : TypeTag τ} :
    (s, tag) ∈ sp.tags leaves ↔ (∃ t, (s, t) ∈ leaves ∧ tag = .leaf t) ∨
      (s = sp.reference ∧ tag = .reference) ∨ (s = sp.set ∧ tag = .set) ∨
      (sp.nested = some s ∧ tag = .nested) := by
  simp only [tags, List.mem_append, List.mem_map, List.mem_cons, List.not_mem_nil, or_false,
    Prod.mk.injEq, Option.mem_toList, or_assoc]
  refine or_congr ?_ (or_congr_right (or_congr_right ?_))
  · constructor
    · rintro ⟨⟨_, t⟩, ht, rfl, rfl⟩
      exact ⟨t, ht, rfl⟩
    · rintro ⟨t, ht, rfl⟩
      exact ⟨(s, t), ht, rfl, rfl⟩
  · constructor
    · rintro ⟨_, h, rfl, rfl⟩
      exact ⟨h, rfl⟩
    · rintro ⟨h, rfl⟩
      exact ⟨s, h, rfl, rfl⟩

end TypeSpelling

namespace TypeFormat

open TypeSpelling

def leaves (fmt : TypeFormat τ) : List (String × τ) :=
  fmt.tags.filterMap fun
    | (s, .leaf t) => some (s, t)
    | _ => none

/-- The type is put together in one of the ways that the format has for it. -/
inductive Written (fmt : TypeFormat τ) (sp : TypeSpelling τ) : τ → Prop where
  | leaf {t : τ} (h : t ∈ fmt.leaves.map (·.2)) : Written fmt sp t
  | unknown : Written fmt sp fmt.unknown
  | reference {kind : String} {t : τ} (h : fmt.reference kind = t)
    (hw : sp.toJson t = sp.referenceJson kind) : Written fmt sp t
  | nested {tag : String} (h : sp.nested = some tag) (id : String) : Written fmt sp (fmt.nested id)
  | set {t : τ} (h : Written fmt sp t) : Written fmt sp (sp.setOf t)

/-- The table of the format is that of the spelling, and each way to put a type together is written
as its tag asks for. -/
structure IsSpelledBy (fmt : TypeFormat τ) (sp : TypeSpelling τ) : Prop where
  nodup : (fmt.tags.map (·.1)).Nodup := by decide
  tags : fmt.tags = sp.tags fmt.leaves := by rfl
  setOf : fmt.set = sp.setOf := by rfl
  unknown : fmt.unknown = sp.unknown := by rfl
  toJson_leaves : fmt.leaves.map (sp.toJson ·.2) = fmt.leaves.map (tagJson ·.1) := by rfl
  toJson_unknown : ∃ s, fmt.tags.lookup s = none ∧ sp.toJson fmt.unknown = tagJson s
  toJson_reference : ∀ s, ∃ kind, sp.toJson (fmt.reference s) = sp.referenceJson kind
  toJson_nested : ∀ id,
    sp.toJson (fmt.nested id) = sp.nested.elim (sp.toJson fmt.unknown) (nestedJson · id) := by
      exact fun _ => rfl
  toJson_set : ∀ t, sp.toJson (sp.setOf t) = sp.setJson (sp.toJson t) := by exact fun _ => rfl
  reference_cases : ∀ s, fmt.reference s = sp.unknownReference ∨
    sp.toJson (fmt.reference s) = sp.referenceJson s
  written : ∀ t, fmt.Written sp t

namespace IsSpelledBy

variable (hfmt : fmt.IsSpelledBy sp)

include hfmt

theorem lookup_tags_iff {tag : TypeTag τ} :
    fmt.tags.lookup s = some tag ↔ (∃ t, (s, t) ∈ fmt.leaves ∧ tag = .leaf t) ∨
      (s = sp.reference ∧ tag = .reference) ∨ (s = sp.set ∧ tag = .set) ∨
      (sp.nested = some s ∧ tag = .nested) := by
  rw [lookup_eq_some_iff_mem hfmt.nodup, ← mem_tags_iff, ← hfmt.tags]

theorem lookup_leaf_iff : fmt.tags.lookup s = some (.leaf t) ↔ (s, t) ∈ fmt.leaves := by
  simp [hfmt.lookup_tags_iff]

theorem lookup_reference_iff : fmt.tags.lookup s = some .reference ↔ s = sp.reference := by
  simp [hfmt.lookup_tags_iff]

theorem lookup_set_iff : fmt.tags.lookup s = some .set ↔ s = sp.set := by
  simp [hfmt.lookup_tags_iff]

theorem lookup_nested_iff : fmt.tags.lookup s = some .nested ↔ sp.nested = some s := by
  simp [hfmt.lookup_tags_iff]

theorem toJson_of_mem_leaves (h : (s, t) ∈ fmt.leaves) : sp.toJson t = tagJson s :=
  List.map_inj_left.mp hfmt.toJson_leaves (s, t) h

theorem toJson_of_lookup_leaf (h : fmt.tags.lookup s = some (.leaf t)) :
    sp.toJson t = tagJson s :=
  hfmt.toJson_of_mem_leaves (hfmt.lookup_leaf_iff.mp h)

theorem toJson_nested_eq (h : sp.nested = some s) (id : String) :
    sp.toJson (fmt.nested id) = nestedJson s id := by
  rw [hfmt.toJson_nested, h]
  rfl

theorem decode?_toJson (indexed : Bool) (t : τ) : fmt.decode? indexed (sp.toJson t) = some t := by
  induction hfmt.written t generalizing indexed with
  | leaf h =>
    obtain ⟨⟨s, t⟩, hmem, rfl⟩ := List.mem_map.mp h
    rw [hfmt.toJson_of_mem_leaves hmem]
    exact decode?_leaf (hfmt.lookup_leaf_iff.mpr hmem)
  | unknown =>
    obtain ⟨s, hs, hw⟩ := hfmt.toJson_unknown
    rw [hw]
    exact decode?_unknown hs
  | reference h hw =>
    rw [hw]
    exact h ▸ decode?_reference (hfmt.lookup_reference_iff.mpr rfl)
  | nested h id =>
    rw [hfmt.toJson_nested_eq h]
    exact decode?_nested (hfmt.lookup_nested_iff.mpr h)
  | set _ ih =>
    rw [hfmt.toJson_set]
    refine (decode?_set (hfmt.lookup_set_iff.mpr rfl)).trans ?_
    rw [ih, hfmt.setOf, Option.map_some]

theorem lastWins_toJson (t : τ) : (sp.toJson t).lastWins = sp.toJson t := by
  induction hfmt.written t with
  | leaf h =>
    obtain ⟨⟨s, t⟩, hmem, rfl⟩ := List.mem_map.mp h
    rw [hfmt.toJson_of_mem_leaves hmem]
    rfl
  | unknown =>
    obtain ⟨s, -, hw⟩ := hfmt.toJson_unknown
    rw [hw]
    rfl
  | reference _ hw =>
    rw [hw]
    rfl
  | nested h id =>
    rw [hfmt.toJson_nested_eq h]
    rfl
  | set _ ih =>
    rw [hfmt.toJson_set]
    apply Json.lastWins_object_eq_self
    · simp
    · simp [Json.lastWins, ih]

theorem depth_toJson_unknown_le : (sp.toJson fmt.unknown).depth ≤ 1 := by
  obtain ⟨s, -, hw⟩ := hfmt.toJson_unknown
  rw [hw]
  exact Nat.le_refl 1

theorem writesShallow : fmt.WritesShallow sp.toJson where
  leaf e he t ht := by
    obtain ⟨s, tag⟩ := e
    cases ht
    rw [hfmt.toJson_of_lookup_leaf ((lookup_eq_some_iff_mem hfmt.nodup).mpr he)]
    exact Nat.le_refl 1
  unknown := hfmt.depth_toJson_unknown_le
  reference s := by
    obtain ⟨kind, hw⟩ := hfmt.toJson_reference s
    rw [hw]
    exact Nat.le_refl 1
  nested id := by
    rw [hfmt.toJson_nested]
    cases sp.nested with
    | none => exact Nat.le_succ_of_le hfmt.depth_toJson_unknown_le
    | some tag => exact Nat.le_refl 2
  set t := by
    rw [hfmt.setOf, hfmt.toJson_set]
    simp [setJson, Json.depth, Json.depthMembers]

end IsSpelledBy

end TypeFormat

theorem getD_find?_cases {κ : Type} (all : List κ) (name : κ → String) (unknown : κ) (s : String) :
    (all.find? (name · == s)).getD unknown = unknown ∨
      name ((all.find? (name · == s)).getD unknown) = s := by
  cases h : all.find? (name · == s) with
  | none => exact .inl rfl
  | some k =>
    have hname := List.find?_some h
    exact .inr (beq_iff_eq.mp hname)

theorem FieldType.written (t : FieldType) : FieldType.format.Written FieldType.spelling t := by
  induction t with
  | reference kind => exact .reference (congrArg FieldType.reference kind.ofName_name) rfl
  | set _ ih => exact .set ih
  | unknown => exact .unknown
  | _ => exact .leaf (by decide)

theorem AttributeType.written (t : AttributeType) :
    AttributeType.format.Written AttributeType.spelling t := by
  induction t with
  | reference kind => exact .reference (congrArg AttributeType.reference kind.ofName_name) rfl
  | set _ ih => exact .set ih
  | nested id => exact .nested rfl id
  | unknown => exact .unknown
  | _ => exact .leaf (by decide)

theorem FieldType.isSpelledBy : FieldType.format.IsSpelledBy FieldType.spelling where
  toJson_unknown := ⟨"Unknown", rfl, rfl⟩
  toJson_reference _ := ⟨_, rfl⟩
  reference_cases s := (getD_find?_cases FieldReference.all FieldReference.name .unknown s).imp
    (congrArg FieldType.reference) (congrArg FieldType.spelling.referenceJson)
  written := FieldType.written

theorem AttributeType.isSpelledBy : AttributeType.format.IsSpelledBy AttributeType.spelling where
  toJson_unknown := ⟨"unknown", rfl, rfl⟩
  toJson_reference _ := ⟨_, rfl⟩
  reference_cases s :=
    (getD_find?_cases AttributeReference.all AttributeReference.name .unknown s).imp
      (congrArg AttributeType.reference) (congrArg AttributeType.spelling.referenceJson)
  written := AttributeType.written

end SchemaProjection
