import SchemaProjection.Proofs.Assembly

namespace SchemaProjection.ClassLinks

variable {s : Schema} {c : Configuration} {u : OutputUnit}

/-- How the type of a field follows from the type of its attribute, as far as classes go. -/
structure Linked (s : Schema) (u : OutputUnit) (t : AttributeType) (o : OutputType) : Prop where
  depth : o.shape.depth = t.depth
  nested : ∀ n, o.shape.leaf = .generated n → ∃ id, t.leaf = .nested id
  /-- The class stands where the first product type with the id does, and says that it is of it. -/
  resolved : ∀ id k, t.leaf = .nested id → s.productTypes.findIdx? (·.id == id) = some k →
    ∃ cls, u.classes[k]? = some cls ∧ o.shape.leaf = .generated cls.name ∧
      cls.projection = .variantAttributes id
  /-- A reference that leads nowhere, and no other, gives a list of any attributes. -/
  dangling : ∀ id, t.leaf = .nested id →
    (o.shape.leaf = .attributeList ↔ ∀ p ∈ s.productTypes, p.id ≠ id)

theorem linked_of_output
    (hc : List.Forall₂ (fun p cls => p.synthesize s c = .ok cls) s.productTypes u.classes)
    {t : AttributeType} {o : OutputType} {required : Bool} (h : t.output s c required = .ok o) :
    Linked s u t o := by
  obtain ⟨hs, -⟩ := AttributeType.output_eq_ok_iff.mp h
  refine ⟨(AttributeType.leaf_of_shape hs).2, fun n => AttributeType.nested_of_generated hs,
    fun id k ht hk => ?_, fun id ht => ?_⟩
  · have hn := AttributeType.nestedShape_of_shape hs ht
    obtain ⟨p, hp, hpk⟩ := Schema.productType?_of_findIdx? hk
    obtain ⟨cls, hcls, hsyn⟩ := Outcome.getElem?_of_forall₂ hc hpk
    obtain ⟨hname, hproj, -⟩ := ProductType.name_and_projection_of_synthesize hsyn
    obtain ⟨q, n, hq, hqn, hl⟩ | ⟨hnone, -⟩ := Schema.nestedShape_eq_ok_iff.mp hn
    · have hpq : p = q := Option.some.inj (hp.symm.trans hq)
      subst q
      have hnn : n = cls.name := Except.ok.inj (hqn.symm.trans hname)
      rw [← Schema.id_of_productType?_eq_some hp]
      exact ⟨cls, hcls, hnn ▸ hl, hproj⟩
    · rw [hp] at hnone
      cases hnone
  · have hn := AttributeType.nestedShape_of_shape hs ht
    rw [← Schema.productType?_eq_none_iff]
    obtain ⟨q, n, hq, -, hl⟩ | ⟨hnone, hl⟩ := Schema.nestedShape_eq_ok_iff.mp hn
    · simp [hq, hl]
    · simp [hnone, hl]

theorem Linked.exists_class {t : AttributeType} {o : OutputType} (h : Linked s u t o) {n : String}
    (hn : o.shape.leaf = .generated n) : ∃ cls ∈ u.classes, cls.name = n := by
  obtain ⟨id, ht⟩ := h.nested n hn
  cases hk : s.productTypes.findIdx? (·.id == id) with
  | some k =>
    obtain ⟨cls, hcls, hl, -⟩ := h.resolved id k ht hk
    refine ⟨cls, List.mem_of_getElem? hcls, ?_⟩
    rw [hn] at hl
    exact (Shape.generated.inj hl).symm
  | none =>
    have hd := (h.dangling id ht).mpr (by simpa using hk)
    rw [hn] at hd
    cases hd

theorem forall₂_linked (h : (s.variantAttributesUnit c).outcome = .ok u) :
    List.Forall₂ (fun p cls => cls.nested = none ∧
      List.Forall₂ (fun a f => Linked s u a.type f.type) p.attributes cls.fields)
      s.productTypes u.classes := by
  rw [Schema.outcome_variantAttributesUnit, assembleVariantAttributes_eq_ok_iff] at h
  obtain ⟨-, hc, -, -, -⟩ := h
  refine hc.imp fun p cls hp => ⟨(ProductType.name_and_projection_of_synthesize hp).2.2, ?_⟩
  exact (ProductType.forall₂_fields_of_synthesize hp).imp fun a f hf => linked_of_output hc hf.2.1

/-- The links of a whole unit, whose classes stand in the order of their product types. -/
structure WellLinked (s : Schema) (u : OutputUnit) : Prop where
  /-- No field names a class that the unit lacks. -/
  closed : ∀ cls ∈ u.classes, ∀ f ∈ cls.fields, ∀ n, f.type.shape.leaf = .generated n →
    ∃ d ∈ u.classes, d.name = n
  linked : List.Forall₂ (fun p cls => cls.nested = none ∧
    List.Forall₂ (fun a f => Linked s u a.type f.type) p.attributes cls.fields)
    s.productTypes u.classes

/-- The generated classes never miss a class and never link to a wrong one. -/
theorem wellLinked_of_unit (h : (s.variantAttributesUnit c).outcome = .ok u) : WellLinked s u := by
  have hl := forall₂_linked h
  refine ⟨fun cls hcls f hf n hn => ?_, hl⟩
  obtain ⟨p, -, -, hp⟩ := Outcome.exists_of_mem_forall₂ hl hcls
  obtain ⟨a, -, ha⟩ := Outcome.exists_of_mem_forall₂ hp hf
  exact ha.exists_class hn

/-- Two product types that refer to each other, one also to itself and to none, and a third that
has the id of the second. -/
def entangled : Schema :=
  .ofCollections []
    [{ id := "a", name := "Alpha", attributes :=
        [{ name := "parts", type := .set (.set (.nested "b")) },
         { name := "inner", type := .nested "a" },
         { name := "lost", type := .nested "z" }] },
     { id := "b", key := some "beta", name := "Beta", attributes :=
        [{ name := "whole", type := .nested "a", required := true }] },
     { id := "b", name := "Gamma", attributes := [{ name := "twin", type := .nested "b" }] }]

def renamed : Configuration :=
  ({} : Configuration).applyAll [.productTypeClass "a" "Whole", .productTypeClass "beta" "Part"]

theorem wellLinked_entangled :
    ∃ u, (entangled.variantAttributesUnit renamed).outcome = .ok u ∧
      u.classes.map (·.name) = ["Whole", "Part", "TypedGammaVariantAttributes"] ∧
      u.classes.map (·.fields.map (·.type.shape.leaf)) =
        [[.generated "Part", .generated "Whole", .attributeList], [.generated "Whole"],
         [.generated "Part"]] ∧
      WellLinked entangled u :=
  ⟨_, rfl, rfl, rfl, wellLinked_of_unit (c := renamed) rfl⟩

end SchemaProjection.ClassLinks
