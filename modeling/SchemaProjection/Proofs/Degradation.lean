import SchemaProjection.Proofs.Generation

namespace SchemaProjection

/-- The leaf is a type or a kind of reference that is not recognised. -/
def FieldType.Degraded (t : FieldType) : Prop :=
  t.leaf = .unknown ∨ t.leaf = .reference .unknown

instance (t : FieldType) : Decidable t.Degraded :=
  inferInstanceAs (Decidable (_ ∨ _))

def AttributeType.target? : AttributeType → Option String
  | .nested id => some id
  | _ => none

/-- The leaf is a type or a kind of reference that is not recognised, or refers to a product type
that the schema does not have. -/
def AttributeType.Degraded (s : Schema) (t : AttributeType) : Prop :=
  t.leaf = .unknown ∨ t.leaf = .reference .unknown ∨
    ∃ id ∈ t.leaf.target?, ∀ p ∈ s.productTypes, p.id ≠ id

instance (s : Schema) (t : AttributeType) : Decidable (t.Degraded s) :=
  inferInstanceAs (Decidable (_ ∨ _ ∨ _))

namespace FieldType

theorem isFallback_shape_iff (t : FieldType) : t.shape.isFallback = true ↔ t.Degraded := by
  induction t with
  | set element ih => exact ih
  | reference kind => cases kind <;> decide
  | _ => decide

end FieldType

theorem AttributeReference.sdk_eq_reference_iff {kind : AttributeReference} :
    kind.sdk = .reference ↔ kind = .unknown := by
  cases kind <;> decide

namespace AttributeType

variable {s : Schema} {c : Configuration} {required : Bool} {shape : Shape} {t : AttributeType}
  {id : String}

theorem degraded_nested_iff : (nested id).Degraded s ↔ s.productType? id = none := by
  rw [Schema.productType?_eq_none_iff]
  simp [Degraded, leaf, target?]

theorem isFallback_iff (h : t.shape s c required = .ok shape) :
    shape.isFallback = true ↔ t.Degraded s := by
  induction t generalizing shape with
  | set element ih =>
    obtain ⟨inner, hinner, rfl⟩ := Outcome.map_eq_ok_iff.mp h
    change inner.isFallback = true ↔ element.Degraded s
    exact ih hinner
  | nested id =>
    rw [degraded_nested_iff]
    obtain ⟨p, n, hp, -, rfl⟩ | ⟨hnone, rfl⟩ := Schema.nestedShape_eq_ok_iff.mp h
    · exact iff_of_false Bool.false_ne_true (by simp [hp])
    · exact iff_of_true rfl hnone
  | reference kind =>
    cases h
    simp [Shape.isFallback, AttributeReference.sdk_eq_reference_iff, Degraded, leaf, target?]
  | unknown =>
    cases h
    exact iff_of_true rfl (.inl rfl)
  | _ =>
    cases h
    exact iff_of_false (by decide) (by simp [Degraded, leaf, target?])

end AttributeType

namespace Degradation

def degradedFields (s : Schema) : List (CustomFieldType × Definition FieldType) :=
  s.types.flatMap fun t => (t.fields.filter (·.type.Degraded)).map (t, ·)

def degradedAttributes (s : Schema) : List (ProductType × Definition AttributeType) :=
  s.productTypes.flatMap fun p => (p.attributes.filter (·.type.Degraded s)).map (p, ·)

def IsFieldOf (c : Configuration) (x : CustomFieldType × Definition FieldType)
    (y : OutputClass × OutputField) : Prop :=
  x.1.synthesize c = .ok y.1 ∧ x.1.outputField c x.2 = .ok y.2

def IsAttributeOf (s : Schema) (c : Configuration) (x : ProductType × Definition AttributeType)
    (y : OutputClass × OutputField) : Prop :=
  x.1.synthesize s c = .ok y.1 ∧ ∃ constant, x.1.outputField s c x.2 = .ok (y.2, constant)

section Lists

variable {ε δ : Type} {fields : ε → List δ} {degraded : ε → δ → Prop}
  [∀ e, DecidablePred (degraded e)] {R : ε → OutputClass → Prop} {F : ε → δ → OutputField → Prop}
  {es : List ε} {classes : List OutputClass} {u : OutputUnit}

theorem forall₂_fallbackFields (h : List.Forall₂ R es u.classes)
    (hfields : ∀ e cls, R e cls → List.Forall₂ (F e) (fields e) cls.typedFields.fields)
    (hdegraded : ∀ e d f, F e d f → (degraded e d ↔ f.type.isFallback = true)) :
    List.Forall₂ (fun x y => R x.1 y.1 ∧ F x.1 x.2 y.2)
      (es.flatMap fun e => ((fields e).filter (degraded e ·)).map (e, ·)) u.fallbackFields := by
  apply List.rel_flatMap h
  intro e cls hcls
  have hkept : List.Forall₂ (F e) ((fields e).filter (degraded e ·))
      (cls.typedFields.fields.filter (·.type.isFallback)) := by
    apply List.rel_filter _ (hfields e cls hcls)
    intro d f hf
    exact decide_eq_true_iff.trans (hdegraded e d f hf)
  exact List.rel_map (fun d f hf => ⟨hcls, hf⟩) hkept

theorem nodup_fallbackFields (hclasses : (u.classes.map (·.name)).Nodup)
    (hfields : ∀ cls ∈ u.classes, (cls.typedFields.fields.map (·.name)).Nodup) :
    (u.fallbackFields.map fun y => (y.1.name, y.2.name)).Nodup := by
  rw [OutputUnit.fallbackFields, List.map_flatMap, List.nodup_flatMap]
  constructor
  · intro cls hcls
    apply List.Nodup.of_map Prod.snd
    rw [List.map_map, List.map_map]
    exact (hfields cls hcls).sublist (List.filter_sublist.map _)
  · apply (List.pairwise_map.mp hclasses).imp
    intro cls cls' hne x hx hx'
    have name_of_mem {cls : OutputClass} (h : x ∈ ((cls.typedFields.fields.filter
        (·.type.isFallback)).map (cls, ·)).map fun y => (y.1.name, y.2.name)) : x.1 = cls.name := by
      rw [List.map_map] at h
      obtain ⟨f, -, rfl⟩ := List.mem_map.mp h
      rfl
    exact hne ((name_of_mem hx).symm.trans (name_of_mem hx'))

end Lists

variable {s : Schema} {c : Configuration} {u : OutputUnit} {cls : OutputClass}

section CustomFields

variable {t : CustomFieldType} {d : Definition FieldType} {f : OutputField}

theorem forall₂_typedFields_of_type (h : t.synthesize c = .ok cls) :
    List.Forall₂ (fun d f => t.outputField c d = .ok f) t.fields cls.typedFields.fields ∧
      (cls.typedFields.fields.map (·.name)).Nodup := by
  obtain ⟨name, fields, -, hf, hnodup, rfl⟩ := CustomFieldType.synthesize_eq_ok_iff.mp h
  exact ⟨hf, hnodup⟩

theorem degraded_iff_of_outputField (h : t.outputField c d = .ok f) :
    d.type.Degraded ↔ f.type.isFallback = true := by
  obtain ⟨-, htype, -⟩ := CustomFieldType.outputField_eq_ok_iff.mp h
  rw [htype]
  exact d.type.isFallback_shape_iff.symm

end CustomFields

section VariantAttributes

variable {p : ProductType} {d : Definition AttributeType} {f : OutputField}

theorem forall₂_typedFields_of_productType (h : p.synthesize s c = .ok cls) :
    List.Forall₂ (fun d f => ∃ constant, p.outputField s c d = .ok (f, constant)) p.attributes
        cls.typedFields.fields ∧
      (cls.typedFields.fields.map (·.name)).Nodup := by
  obtain ⟨name, members, -, hm, hnodup, -, rfl⟩ := ProductType.synthesize_eq_ok_iff.mp h
  refine ⟨?_, ?_⟩
  · change List.Forall₂ _ p.attributes (members.map (·.1))
    rw [List.forall₂_map_right_iff]
    exact hm.imp fun d m h => ⟨m.2, h⟩
  · change ((members.map (·.1)).map (·.name)).Nodup
    rwa [List.map_map]

theorem degraded_iff_of_attribute (h : ∃ constant, p.outputField s c d = .ok (f, constant)) :
    d.type.Degraded s ↔ f.type.isFallback = true := by
  obtain ⟨constant, h⟩ := h
  obtain ⟨-, htype, -⟩ := ProductType.outputField_eq_ok_iff.mp h
  exact (AttributeType.isFallback_iff (AttributeType.output_eq_ok_iff.mp htype).1).symm

end VariantAttributes

/-- A unit lists the fields of the degraded definitions, each with the class of its entity, in input
order and none of them twice. -/
theorem fallbackFields_exact (s : Schema) (c : Configuration) (u : OutputUnit) :
    ((s.customFieldsUnit c).outcome = .ok u →
      List.Forall₂ (IsFieldOf c) (degradedFields s) u.fallbackFields ∧
        (u.fallbackFields.map fun y => (y.1.name, y.2.name)).Nodup) ∧
    ((s.variantAttributesUnit c).outcome = .ok u →
      List.Forall₂ (IsAttributeOf s c) (degradedAttributes s) u.fallbackFields ∧
        (u.fallbackFields.map fun y => (y.1.name, y.2.name)).Nodup) := by
  constructor
  · intro h
    obtain ⟨-, hclasses, hnames, -⟩ := Schema.customFieldsUnit_eq_ok_iff.mp h
    refine ⟨forall₂_fallbackFields hclasses (fun t cls ht => (forall₂_typedFields_of_type ht).1)
      fun t d f => degraded_iff_of_outputField, nodup_fallbackFields hnames ?_⟩
    intro cls hcls
    obtain ⟨t, -, ht⟩ := Outcome.exists_of_mem_forall₂ hclasses hcls
    exact (forall₂_typedFields_of_type ht).2
  · intro h
    obtain ⟨-, hclasses, hnames, -⟩ := Schema.variantAttributesUnit_eq_ok_iff.mp h
    refine ⟨forall₂_fallbackFields hclasses
      (fun p cls hp => (forall₂_typedFields_of_productType hp).1)
      fun p d f => degraded_iff_of_attribute, nodup_fallbackFields hnames ?_⟩
    intro cls hcls
    obtain ⟨p, -, hp⟩ := Outcome.exists_of_mem_forall₂ hclasses hcls
    exact (forall₂_typedFields_of_productType hp).2

def attic : Schema :=
  .ofCollections
    [{ id := "t", key := "gift", fields :=
        [{ name := "note", type := .string }, { name := "wrap", type := .set (.set .unknown) },
         { name := "zones", type := .set (.reference .zone) },
         { name := "sender", type := .reference .unknown }] },
     { id := "u", key := "card" }]
    [{ id := "p", name := "Hat", attributes :=
        [{ name := "band", type := .set (.nested "gone") }, { name := "spare", type := .nested "p" },
         { name := "maker", type := .reference .unknown, required := true },
         { name := "size", type := .number }] }]

theorem fallbackFields_exact_attic :
    (∃ u, (attic.customFieldsUnit {}).outcome = .ok u ∧
      List.Forall₂ (IsFieldOf {}) (degradedFields attic) u.fallbackFields ∧
      (degradedFields attic).map (·.2.name) = ["wrap", "sender"]) ∧
    ∃ u, (attic.variantAttributesUnit {}).outcome = .ok u ∧
      List.Forall₂ (IsAttributeOf attic {}) (degradedAttributes attic) u.fallbackFields ∧
      (degradedAttributes attic).map (·.2.name) = ["band", "maker"] := by
  have hfields : (attic.customFieldsUnit {}).outcome = .ok _ := rfl
  have hattributes : (attic.variantAttributesUnit {}).outcome = .ok _ := rfl
  exact ⟨⟨_, hfields, ((fallbackFields_exact attic {} _).1 hfields).1, by decide⟩,
    _, hattributes, ((fallbackFields_exact attic {} _).2 hattributes).1, by decide⟩

end Degradation

end SchemaProjection
