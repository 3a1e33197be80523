import SchemaProjection.Proofs.Assembly
import SchemaProjection.Proofs.AttributeClass
import SchemaProjection.Proofs.Source.Classes

namespace SchemaProjection.FieldIdentifiers

open Identifier Source Text

variable {s : Schema} {c : Configuration} {p : ProductType} {cls : OutputClass}
  {ps : List ProductType} {u : OutputUnit}

/-- Two fields that the underscore after a keyword brings together. -/
def SuffixClash (cls : OutputClass) : Prop :=
  ∃ f ∈ cls.fields, ∃ g ∈ cls.fields, ∃ k ∈ ["crate", "self", "super"],
    snakeCase f.name = k ∧ snakeCase g.name = k ++ "_"

theorem nodup_snakeCase_of_synthesize (h : p.synthesize s c = .ok cls) :
    (cls.fields.map fun f => snakeCase f.name).Nodup := by
  obtain ⟨n, members, -, -, hsnake, rfl⟩ := AttributeClass.synthesize_eq_ok_iff_isMember.mp h
  rw [List.map_map] at hsnake
  rwa [AttributeClass.classOf, List.map_map]

theorem isIdentifier_of_synthesize (h : p.synthesize s c = .ok cls) :
    ∀ f ∈ cls.fields, isIdentifier f.name = true := by
  intro f hf
  have hfields := ProductType.forall₂_fields_of_synthesize h
  obtain ⟨d, -, hn, -, -⟩ := Outcome.exists_of_mem_forall₂ hfields hf
  exact Configuration.isIdentifier_fieldName hn

theorem ne_append_underscore (k : String) : k ≠ k ++ "_" := by
  intro h
  have hl := congrArg String.length h
  rw [String.length_append] at hl
  exact absurd hl (by simp)

theorem identifierClash_eq_none_iff_not_suffixClash
    (hs : (cls.fields.map fun f => snakeCase f.name).Nodup)
    (hi : ∀ f ∈ cls.fields, isIdentifier f.name = true) :
    identifierClash cls = none ↔ ¬ SuffixClash cls := by
  have hinj := List.inj_on_of_nodup_map hs
  rw [identifierClash_eq_none_iff, List.nodup_map_iff_inj_on hs.of_map]
  constructor
  · rintro h ⟨f, hf, g, hg, k, hk, hfk, hgk⟩
    have he : ofName f.name = ofName g.name :=
      (ofName_eq_ofName_iff (hi f hf) (hi g hg)).mpr (.inr ⟨k, hk, .inl ⟨hfk, hgk⟩⟩)
    have hfg := h f hf g hg he
    rw [← hfg, hfk] at hgk
    exact ne_append_underscore k hgk
  · intro h f hf g hg he
    obtain hfg | ⟨k, hk, ⟨hfk, hgk⟩ | ⟨hgk, hfk⟩⟩ :=
      (ofName_eq_ofName_iff (hi f hf) (hi g hg)).mp he
    · exact hinj hf hg hfg
    · exact absurd ⟨f, hf, g, hg, k, hk, hfk, hgk⟩ h
    · exact absurd ⟨g, hg, f, hf, k, hk, hgk, hfk⟩ h

theorem identifierClash_of_synthesize (h : p.synthesize s c = .ok cls) :
    identifierClash cls = none ↔ ¬ SuffixClash cls :=
  identifierClash_eq_none_iff_not_suffixClash (nodup_snakeCase_of_synthesize h)
    (isIdentifier_of_synthesize h)

theorem clashes_of_assemble (h : (assembleVariantAttributes s c ps).outcome = .ok u) :
    u.domain = .variantAttributes ∧ ∀ cls ∈ u.classes,
      (∃ id, cls.projection = .variantAttributes id) ∧
      (identifierClash cls = none ↔ ¬ SuffixClash cls) := by
  obtain ⟨-, hc, -, hd, -⟩ := assembleVariantAttributes_eq_ok_iff.mp h
  refine ⟨hd, fun cls hcls => ?_⟩
  obtain ⟨p, -, hp⟩ := Outcome.exists_of_mem_forall₂ hc hcls
  have hproj := (ProductType.name_and_projection_of_synthesize hp).2.1
  exact ⟨⟨_, hproj⟩, identifierClash_of_synthesize hp⟩

theorem not_suffixClash_of_render (h : (assembleVariantAttributes s c ps).outcome = .ok u)
    {c' : Configuration} {text : String} (hr : render c' u = .ok text) :
    ∀ cls ∈ u.classes, ¬ SuffixClash cls := by
  obtain ⟨hd, hclash⟩ := clashes_of_assemble h
  obtain ⟨as, has, -⟩ := (render_eq_ok_iff_attributesClasses hd).mp hr
  intro cls hcls
  obtain ⟨a, -, -, hnone, -⟩ :=
    Outcome.exists_of_mem_forall₂ (attributesClasses_eq_ok_iff.mp has).flip hcls
  exact (hclash cls hcls).2.mp hnone

theorem exists_suffixClash_of_render (h : (assembleVariantAttributes s c ps).outcome = .ok u)
    {c' : Configuration} {e : GenerationError} (hr : render c' u = .error e) :
    ∃ cls ∈ u.classes, SuffixClash cls ∧ ∃ clash, e = .duplicateField cls.name clash := by
  obtain ⟨hd, hclash⟩ := clashes_of_assemble h
  rw [render_eq_error_iff_attributesClasses hd] at hr
  obtain ⟨cls, hcls, clash, hsome, he⟩ :=
    exists_clash_of_attributesClasses (fun cls hcls => (hclash cls hcls).1) hr
  refine ⟨cls, hcls, ?_, clash, he⟩
  by_contra hn
  rw [(hclash cls hcls).2.mpr hn] at hsome
  cases hsome

/-- A unit of variant attributes cannot be written exactly when one of its classes has two fields
that the underscore after a keyword brings together, and the error says so. -/
theorem render_fails_iff_suffixClash (h : (assembleVariantAttributes s c ps).outcome = .ok u)
    (c' : Configuration) :
    ((∃ e, render c' u = .error e) ↔ ∃ cls ∈ u.classes, SuffixClash cls) ∧
    (∀ e, render c' u = .error e →
      ∃ cls ∈ u.classes, SuffixClash cls ∧ ∃ clash, e = .duplicateField cls.name clash) ∧
    ((∀ cls ∈ u.classes, ¬ SuffixClash cls) → ∃ text, render c' u = .ok text) := by
  refine ⟨⟨?_, ?_⟩, fun e => exists_suffixClash_of_render h, ?_⟩
  · rintro ⟨e, he⟩
    obtain ⟨cls, hcls, hs, -⟩ := exists_suffixClash_of_render h he
    exact ⟨cls, hcls, hs⟩
  · rintro ⟨cls, hcls, hs⟩
    cases hr : render c' u with
    | error e => exact ⟨e, rfl⟩
    | ok text => exact absurd hs (not_suffixClash_of_render h hr cls hcls)
  · intro hn
    cases hr : render c' u with
    | ok text => exact ⟨text, rfl⟩
    | error e =>
      obtain ⟨cls, hcls, hs, -⟩ := exists_suffixClash_of_render h hr
      exact absurd hs (hn cls hcls)

def selfish : List ProductType :=
  [{ id := "p", name := "Own", attributes :=
      [{ name := "size", type := .text }, { name := "self", type := .text },
       { name := "self_", type := .number }] }]

theorem render_fails_selfish :
    ∃ u, (assembleVariantAttributes (.ofCollections [] selfish) {} selfish).outcome = .ok u ∧
      ∃ e, render {} u = .error e := by
  refine ⟨_, rfl, ?_⟩
  have h := render_fails_iff_suffixClash
    (show (assembleVariantAttributes (.ofCollections [] selfish) {} selfish).outcome = .ok _
      from rfl) {}
  refine h.1.mpr ⟨_, List.mem_cons_self, _, .tail _ List.mem_cons_self, _,
    .tail _ (.tail _ List.mem_cons_self), "self", by decide, ?_, ?_⟩
  · rfl
  · rfl

end SchemaProjection.FieldIdentifiers
