import SchemaProjection.Proofs.Constructors
import SchemaProjection.Proofs.Generation
import SchemaProjection.Proofs.ValidNames

namespace SchemaProjection

namespace Identifier

open Text

variable {name : String}

/-- A plain identifier that is no keyword, or a raw one that is made from a keyword. -/
def IsLegal (ident : String) : Prop :=
  IsPlain ident ∧ isKeyword ident = false ∨ ∃ k ∈ rawKeywords, ident = "r#" ++ k

theorem isLegal_suffixed {k : String} (h : k ∈ reservedKeywords) : IsLegal (k ++ "_") := by
  have hall : ∀ k ∈ reservedKeywords,
      isIdentifier (k ++ "_") = true ∧ isKeyword (k ++ "_") = false := by
    decide +kernel
  obtain ⟨hidentifier, hkeyword⟩ := hall k h
  exact .inl ⟨isIdentifier_iff_isPlain.mp hidentifier, hkeyword⟩

theorem isLegal_ofName (h : isIdentifier name = true) : IsLegal (ofName name) := by
  rw [ofName_eq_escaped]
  obtain ⟨hk, he⟩ | ⟨hk, he⟩ | ⟨hk, he⟩ := escaped_cases (snakeCase name)
  · rw [he]
    exact isLegal_suffixed hk
  · exact .inr ⟨_, hk, he⟩
  · rw [he]
    exact .inl ⟨isIdentifier_iff_isPlain.mp (isIdentifier_snakeCase h), hk⟩

end Identifier

open Identifier Source Text

variable {s : Schema} {c : Configuration} {u : OutputUnit} {cls : OutputClass} {f : GeneratedFile}
  {files : List GeneratedFile} {sdkCrate : String} {ls : List String}

/-- The names of a class have been checked, and the identifiers that they get can be found among the
lines of the file: that of the module, where the struct is in one, and those of the fields. -/
structure WrittenLegally (d : Domain) (cls : OutputClass) (ls : List String) : Prop where
  name : isIdentifier cls.name = true
  fieldNames : ∀ x ∈ cls.typedFields.fields, isIdentifier x.name = true
  module : IsLegal (ofName cls.name)
  fields : ∃ scope fields, structScope? d cls ls = some scope ∧
    structFields? cls.typedFields.name scope = some fields ∧
    fields.map (·.ident) = cls.typedFields.fields.map (ofName ·.name) ∧
    ∀ f ∈ fields, IsLegal f.ident

theorem writtenLegally_of_declaresFields {d : Domain} (hname : isIdentifier cls.name = true)
    (hfields : ∀ x ∈ cls.typedFields.fields, isIdentifier x.name = true)
    (h : ∃ scope, structScope? d cls ls = some scope ∧
      DeclaresFields sdkCrate cls.typedFields scope) : WrittenLegally d cls ls := by
  obtain ⟨scope, hscope, fields, hread, -, hwritten⟩ := h
  refine ⟨hname, hfields, isLegal_ofName hname, scope, fields, hscope, hread, ?_, ?_⟩
  · exact (Outcome.map_eq_map_of_forall₂ hwritten fun _ _ hx => hx.ident.symm).symm
  · intro f hf
    obtain ⟨x, hx, hident⟩ := Outcome.exists_of_mem_forall₂ hwritten hf
    rw [hident.ident]
    exact isLegal_ofName (hfields x hx)

theorem writtenLegally_of_unit? {d : Domain} (hu : (s.unit? c d).outcome = .ok (some u))
    (h : unitLines sdkCrate u = .ok ls) : ∀ cls ∈ u.classes, WrittenLegally u.domain cls ls := by
  cases d with
  | customFields =>
    have hunit := Schema.unit?_customFields_eq_some_iff.mp hu
    have hdeclared := declaresFields_of_customFields
      ((Schema.outcome_customFieldsUnit s c).symm.trans hunit) h
    intro cls hcls
    obtain ⟨t, -, ht⟩ := Schema.exists_type_of_mem_classes hunit hcls
    obtain ⟨name, fields, hname, -, -, rfl⟩ := CustomFieldType.synthesize_eq_ok_iff.mp ht
    exact writtenLegally_of_declaresFields (Configuration.isIdentifier_className hname)
      (CustomFieldType.isMapped_of_synthesize ht).names (hdeclared _ hcls)
  | variantAttributes =>
    have hunit := Schema.unit?_variantAttributes_eq_some_iff.mp hu
    have hdeclared := declaresFields_of_variantAttributes
      ((Schema.outcome_variantAttributesUnit s c).symm.trans hunit) h
    intro cls hcls
    obtain ⟨p, -, hp⟩ := Outcome.exists_of_mem_forall₂
      (Schema.variantAttributesUnit_eq_ok_iff.mp hunit).2.1 hcls
    obtain ⟨hname, -, hnested⟩ := ProductType.name_and_projection_of_synthesize hp
    have htyped : cls.typedFields = cls := by
      rw [OutputClass.typedFields, hnested]
      rfl
    refine writtenLegally_of_declaresFields (Configuration.isIdentifier_className hname) ?_
      (hdeclared cls hcls)
    rw [htyped]
    exact (ProductType.isMapped_of_synthesize hp).names

theorem writtenLegally_of_generate (h : (s.generate c).outcome = .ok files) (hf : f ∈ files) :
    ∃ u ls, (s.unit? c u.domain).outcome = .ok (some u) ∧ f.contents = ofLines ls ∧
      ∀ cls ∈ u.classes, WrittenLegally u.domain cls ls := by
  obtain ⟨d, u, hu, hfile⟩ := Schema.exists_unit_of_mem_files h hf
  obtain ⟨contents, hrender, rfl⟩ := Outcome.map_eq_ok_iff.mp hfile
  obtain ⟨ls, hls, rfl⟩ := Outcome.map_eq_ok_iff.mp hrender
  refine ⟨u, ls, ?_, rfl, writtenLegally_of_unit? hu hls⟩
  rwa [(Schema.package_of_unit? hu).1]

/-- The identifier for a checked name is legal. Two of them are the same exactly when the names have
one snake case, or are kept apart there by the underscore alone that `crate`, `self` and `super`
get. All that a generated file calls by such an identifier has a checked name. -/
theorem identifiers_legal_and_distinct :
    (∀ name, isIdentifier name = true → IsLegal (ofName name)) ∧
    (∀ a b, isIdentifier a = true → isIdentifier b = true →
      (ofName a = ofName b ↔
        snakeCase a = snakeCase b ∨ ∃ k ∈ ["crate", "self", "super"],
          (snakeCase a = k ∧ snakeCase b = k ++ "_") ∨
          (snakeCase b = k ∧ snakeCase a = k ++ "_"))) ∧
    ∀ (s : Schema) (c : Configuration) (files : List GeneratedFile),
      (s.generate c).outcome = .ok files → ∀ f ∈ files, ∃ u ls,
        (s.unit? c u.domain).outcome = .ok (some u) ∧ f.contents = ofLines ls ∧
        ∀ cls ∈ u.classes, WrittenLegally u.domain cls ls :=
  ⟨fun _ => isLegal_ofName, fun _ _ => ofName_eq_ofName_iff,
    fun _ _ _ h _ hf => writtenLegally_of_generate h hf⟩

def keyed : Schema :=
  .ofCollections [{ id := "t", key := "color", fields := [{ name := "Type", type := .string }] }] []

theorem identifiers_legal_and_distinct_keyed :
    IsLegal "r#match" ∧ ofName "Crate" = ofName "crate_" ∧ ofName "type" ≠ ofName "type_" ∧
    ∃ f, (keyed.generate {}).outcome = .ok [f] ∧ ∃ u ls,
      (keyed.unit? {} u.domain).outcome = .ok (some u) ∧ f.contents = ofLines ls ∧
      ∀ cls ∈ u.classes, WrittenLegally u.domain cls ls := by
  obtain ⟨hlegal, hsame, hfiles⟩ := identifiers_legal_and_distinct
  refine ⟨hlegal "Match" (by decide), ?_, ?_, ?_⟩
  · exact (hsame _ _ (by decide) (by decide)).mpr (.inr ⟨"crate", by decide, .inl ⟨rfl, rfl⟩⟩)
  · intro h
    exact absurd ((hsame _ _ (by decide) (by decide)).mp h) (by decide)
  · exact ⟨_, rfl, hfiles keyed {} _ rfl _ List.mem_cons_self⟩

end SchemaProjection
