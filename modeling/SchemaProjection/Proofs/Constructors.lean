import SchemaProjection.Proofs.Assembly
import SchemaProjection.Proofs.Identifier
import SchemaProjection.Proofs.Naming
import SchemaProjection.Proofs.Source.ImportTable
import SchemaProjection.Proofs.Source.StructTexts
import SchemaProjection.Proofs.Source.UseLines

namespace SchemaProjection

open Identifier Source

variable {c c' : Configuration} {u : OutputUnit} {cls : OutputClass} {x : OutputField}
  {shape : Shape} {name sdkCrate text : String} {ls : List String}

section Words

theorem isPunctuation_eq_false_of_isWordChar {x : Char} (h : isWordChar x = true) :
    isPunctuation x = false := by
  have hno := List.all_eq_true.mp (show
    [' ', ',', ':', '(', ')', '\x7b', '\x7d'].all (!isWordChar ·) = true by decide)
  rw [isPunctuation, List.contains_eq_mem, decide_eq_false_iff_not]
  intro hx
  have hother := hno x hx
  rw [h] at hother
  cases hother

theorem isWord_of_isIdentifier (h : isIdentifier name = true) : IsWord name := by
  refine ⟨?_, fun x hx => isPunctuation_eq_false_of_isWordChar (isWordChar_of_isIdentifier h x hx)⟩
  rintro rfl
  exact absurd h (by decide)

theorem isWord_snakeCase (h : isIdentifier name = true) : IsWord (Text.snakeCase name) := by
  refine ⟨?_, fun x hx => isPunctuation_eq_false_of_isWordChar
    (Text.isWordChar_of_mem_snakeCase (isWordChar_of_isIdentifier h) x hx)⟩
  cases hname : name.toList with
  | nil =>
    rw [isIdentifier, hname] at h
    cases h
  | cons x xs =>
    rw [Text.snakeCase, hname, Text.snakeFrom_none_cons]
    exact fun hempty => by simpa using congrArg String.toList hempty

theorem isWord_ofName (h : isIdentifier name = true) : IsWord (ofName name) := by
  have hsnake := isWord_snakeCase h
  rw [ofName_eq_escaped]
  obtain ⟨-, he⟩ | ⟨-, he⟩ | ⟨-, he⟩ := escaped_cases (Text.snakeCase name)
  · rw [he, ← String.empty_append (s := Text.snakeCase name)]
    exact hsnake.enclosed (by decide) (by decide)
  · rw [he, ← String.append_empty (s := "r#" ++ Text.snakeCase name)]
    exact hsnake.enclosed (by decide) (by decide)
  · rwa [he]

end Words

section Types

/-- A shape that the fields of assembled classes have: what it mentions is in the SDK or has the
name of a class. -/
structure Shape.IsMapped (shape : Shape) : Prop where
  sdk : ∀ t, shape.leaf = .sdk t → t ∈ SdkType.all
  generated : ∀ n, shape.leaf = .generated n → isIdentifier n = true

theorem isWord_primitive (p : Primitive) : IsWord p.text := by
  cases p <;> exact .of_hasNoPunctuation (by decide) (by decide)

theorem isIdentifier_sdk : ∀ t ∈ SdkType.all, isIdentifier t.name = true := by
  decide +kernel

theorem isWord_shapeText (h : shape.IsMapped) (inSet : Bool) : IsWord (shape.text inSet) := by
  induction shape generalizing inSet with
  | primitive p => exact isWord_primitive p
  | sdk t => exact isWord_of_isIdentifier (isIdentifier_sdk t (h.sdk t rfl))
  | set nullable element ih => exact (ih ⟨h.sdk, h.generated⟩ true).enclosed (by decide) (by decide)
  | generated className =>
    have hname := isWord_of_isIdentifier (h.generated className rfl)
    rw [Shape.text]
    split
    · exact hname
    · exact hname.enclosed (by decide) (by decide)
  | attributeList =>
    rw [Shape.text]
    exact .of_hasNoPunctuation (by decide) (by decide)
  | any =>
    rw [Shape.text]
    exact .of_hasNoPunctuation (by decide) (by decide)

theorem isWord_typeText {t : OutputType} (h : t.shape.IsMapped) : IsWord t.text := by
  have hshape := isWord_shapeText h false
  rw [OutputType.text]
  split
  · exact hshape.enclosed (by decide) (by decide)
  · exact hshape

theorem not_option_prefix_of_isIdentifier (h : isIdentifier name = true) :
    ¬ "Option<".toList <+: name.toList := by
  intro hoption
  have hword := isWordChar_of_isIdentifier h '<' (hoption.subset (by decide))
  exact absurd hword (by decide)

theorem not_option_prefix_shapeText (h : shape.IsMapped) :
    ¬ "Option<".toList <+: (shape.text false).toList := by
  cases shape with
  | primitive p => cases p <;> decide
  | sdk t => exact not_option_prefix_of_isIdentifier (isIdentifier_sdk t (h.sdk t rfl))
  | set nullable element =>
    rw [Shape.text, String.append_assoc]
    exact not_prefix_append (by decide) (by decide) _
  | generated className =>
    rw [Shape.text, if_neg Bool.false_ne_true, String.append_assoc]
    exact not_prefix_append (by decide) (by decide) _
  | attributeList => decide
  | any => decide

theorem option_prefix_typeText_iff {t : OutputType} (h : t.shape.IsMapped) :
    "Option<".toList <+: t.text.toList ↔ t.nullable = true := by
  rw [OutputType.text]
  split
  next hnullable =>
    rw [String.append_assoc, String.toList_append]
    exact iff_of_true (List.prefix_append _ _) hnullable
  next hrequired => exact iff_of_false (not_option_prefix_shapeText h) hrequired

end Types

section Assembled

/-- A unit that is assembled under the configuration. -/
inductive OutputUnit.Assembled (c : Configuration) (u : OutputUnit) : Prop where
  | customFields {ts : List CustomFieldType} (h : (assembleCustomFields c ts).outcome = .ok u)
  | variantAttributes {s : Schema} {ps : List ProductType}
    (h : (assembleVariantAttributes s c ps).outcome = .ok u)

theorem FieldType.isMapped_shape (t : FieldType) : t.shape.IsMapped :=
  ⟨fun _ => t.mem_all_of_leaf, fun n hn => absurd hn (t.leaf_shape_ne_generated n)⟩

theorem AttributeType.isMapped_shape {s : Schema} {required : Bool} {t : AttributeType}
    (h : t.shape s c required = .ok shape) : shape.IsMapped := by
  refine ⟨fun _ => mem_all_of_leaf h, fun n hn => ?_⟩
  obtain ⟨id, ht⟩ := nested_of_generated h hn
  have hnested := nestedShape_of_shape h ht
  rw [hn] at hnested
  obtain ⟨p, name, -, hname, heq⟩ | ⟨-, hlist⟩ := Schema.nestedShape_eq_ok_iff.mp hnested
  · rw [Shape.generated.inj heq]
    exact Configuration.isIdentifier_className hname
  · cases hlist

structure OutputClass.IsMapped (cls : OutputClass) : Prop where
  names : ∀ x ∈ cls.fields, isIdentifier x.name = true
  types : ∀ x ∈ cls.fields, x.type.shape.IsMapped

theorem CustomFieldType.isMapped_of_synthesize {t : CustomFieldType}
    (h : t.synthesize c = .ok cls) : cls.typedFields.IsMapped := by
  obtain ⟨name, fields, -, hfields, -, rfl⟩ := synthesize_eq_ok_iff.mp h
  constructor
  · intro x hx
    obtain ⟨d, -, hd⟩ := Outcome.exists_of_mem_forall₂ hfields hx
    exact Configuration.isIdentifier_fieldName (outputField_eq_ok_iff.mp hd).1
  · intro x hx
    obtain ⟨d, -, hd⟩ := Outcome.exists_of_mem_forall₂ hfields hx
    rw [(outputField_eq_ok_iff.mp hd).2.1]
    exact d.type.isMapped_shape

theorem ProductType.isMapped_of_synthesize {s : Schema} {p : ProductType}
    (h : p.synthesize s c = .ok cls) : cls.IsMapped := by
  have hfields := forall₂_fields_of_synthesize h
  constructor
  · intro x hx
    obtain ⟨d, -, hn, -, -⟩ := Outcome.exists_of_mem_forall₂ hfields hx
    exact Configuration.isIdentifier_fieldName hn
  · intro x hx
    obtain ⟨d, -, -, ht, -⟩ := Outcome.exists_of_mem_forall₂ hfields hx
    obtain ⟨shape, hshape, hx⟩ := Outcome.map_eq_ok_iff.mp ht
    rw [← hx]
    exact AttributeType.isMapped_shape hshape

end Assembled

section Files

variable {head : String} {body : List String} {ks : List CarrierClass} {k : CarrierClass}
  {as : List AttributesClass} {a : AttributesClass}

theorem lacks_imports (hfront : head.front? = some 'p' ∨ head.front? = some 'i')
    (d : Domain) (package : List String) (imports : Imports) :
    Lacks head (headerLines d package ++ useLines imports ++ [""]) := by
  have hplain : ∀ l ∈ ["", "use serde::\x7bDeserialize, Serialize\x7d;"],
      l.front? ≠ some 'p' ∧ l.front? ≠ some 'i' := by
    decide
  have huse : ∀ l ∈ useLines imports, l.front? ≠ some 'p' ∧ l.front? ≠ some 'i' := by
    rw [useLines, List.forall_mem_map]
    intro path _
    rw [String.append_assoc, front?_append _ _ (by decide)]
    decide
  rw [headerLines, lacks_append_iff, lacks_append_iff]
  refine ⟨⟨?_, lacks_of_front? hfront huse⟩, lacks_singleton hfront (by decide) (by decide)⟩
  refine lacks_cons (lacks_singleton hfront (by decide) (by decide)) ?_
  refine lacks_cons ?_ (lacks_of_front? hfront hplain)
  rw [String.append_assoc, String.append_assoc, String.append_assoc]
  exact lacks_append hfront _ _ (by decide) (by decide) (by decide)

theorem block?_linesWith (hfront : head.front? = some 'p' ∨ head.front? = some 'i') :
    block? head (linesWith sdkCrate u body) = block? head body :=
  block?_append (lacks_imports hfront _ _ _) body

theorem lacks_customFieldsTrait (hfront : head.front? = some 'p' ∨ head.front? = some 'i')
    (htrait : head ≠ "pub trait TypedCustomFields") (typeReference : String) :
    Lacks head (customFieldsTrait typeReference) := by
  rw [customFieldsTrait, lacks_append_iff, lacks_append_iff]
  exact ⟨⟨lacks_singleton hfront (by decide) (by decide), lacks_block hfront htrait _⟩,
    lacks_singleton hfront (by decide) (by decide)⟩

theorem lacks_attributesIntro (hfront : head.front? = some 'p' ∨ head.front? = some 'i')
    (htrait : head ≠ "pub trait TypedVariantAttributes")
    (hfunction : ∀ tail, Lacks head ["pub fn from_attributes<T>(attributes: &[" ++ tail])
    (attributeType : String) :
    Lacks head (variantAttributesTrait ++ fromAttributesFunction attributeType) := by
  have hline {line : String} (hp : line.front? ≠ some 'p') (hi : line.front? ≠ some 'i') :=
    lacks_singleton hfront hp hi
  rw [variantAttributesTrait, fromAttributesFunction, lacks_append_iff, lacks_append_iff,
    lacks_append_iff, String.append_assoc]
  refine ⟨⟨⟨hline (by decide) (by decide), lacks_block hfront htrait _⟩,
    hline (by decide) (by decide)⟩, ?_⟩
  exact lacks_cons (hline (by decide) (by decide)) (lacks_cons (hline (by decide) (by decide))
    (lacks_cons (hline (by decide) (by decide)) (lacks_cons (hline (by decide) (by decide))
      (lacks_cons (hfunction _) (lacks_of_front? hfront (by decide))))))

theorem lacks_attributesPart (hfront : head.front? = some 'p' ∨ head.front? = some 'i')
    (hstruct : head ≠ "pub struct " ++ a.struct.name) (himpl : head ≠ "impl " ++ a.struct.name)
    (htrait : head ≠ "impl TypedVariantAttributes for " ++ a.struct.name) :
    Lacks head (attributesPart as a) := by
  rw [attributesPart, attributesLines, lacks_append_iff, lacks_append_iff, lacks_append_iff]
  refine ⟨⟨⟨?_, lacks_structLines hfront hstruct himpl _⟩,
    lacks_block hfront htrait _⟩, lacks_singleton hfront (by decide) (by decide)⟩
  rw [String.append_assoc]
  exact lacks_append hfront _ _ (by decide) (by decide) (by decide)

theorem exists_carrierLines_eq (typeReference customFields : String) (fields : List FieldText) :
    ∃ above, carrierLines typeReference customFields k fields =
        above ++ (block ("pub mod " ++ k.module)
          (["use super::*;", "", "/// Field values of type `" ++ Text.docText k.typeKey ++ "`."] ++
            structLines k.record fields true) ++ [""]) ∧
      ∀ module, Lacks ("pub mod " ++ module) above := by
  refine ⟨_, List.append_assoc _ _ _, fun module => ?_⟩
  have hfront := front?_keyword "pub mod " module (by decide) (by decide)
  have hempty : Lacks ("pub mod " ++ module) [""] :=
    lacks_singleton hfront (by decide) (by decide)
  have hdocs : ∀ l ∈ ["///", "/// Keeps the raw carrier it was read from.",
      "#[derive(Debug, Clone)]"], l.front? ≠ some 'p' ∧ l.front? ≠ some 'i' := by
    decide
  have hblock (keyword name : String) (body : List String)
      (ha : "pub mod ".toList.isPrefixOf keyword.toList = false)
      (hb : keyword.toList.isPrefixOf "pub mod ".toList = false) :
      Lacks ("pub mod " ++ module) (block (keyword ++ name) body) :=
    lacks_block hfront (append_ne_append ha hb _ _) body
  simp only [lacks_append_iff, and_assoc, String.append_assoc]
  exact ⟨lacks_cons (lacks_append hfront _ _ (by decide) (by decide) (by decide))
      (lacks_of_front? hfront hdocs),
    hblock _ _ _ (by decide) (by decide), hempty, hblock _ _ _ (by decide) (by decide), hempty,
    hblock _ _ _ (by decide) (by decide), hempty, hblock _ _ _ (by decide) (by decide), hempty,
    hblock _ _ _ (by decide) (by decide), hempty, hblock _ _ _ (by decide) (by decide), hempty,
    lacks_append hfront _ _ (by decide) (by decide) (by decide)⟩

theorem exists_split_of_nodup {α : Type} {f : α → String} {xs : List α} {x : α}
    (h : (xs.map f).Nodup) (hx : x ∈ xs) :
    ∃ before after, xs = before ++ x :: after ∧ ∀ y ∈ before, f x ≠ f y := by
  obtain ⟨before, after, rfl⟩ := List.append_of_mem hx
  rw [List.map_append, List.map_cons, List.nodup_middle, List.nodup_cons, List.mem_append,
    not_or] at h
  refine ⟨before, after, rfl, fun y hy heq => h.1.1 ?_⟩
  rw [heq]
  exact List.mem_map_of_mem hy

theorem block?_carriersBody (hmodules : (ks.map (·.module)).Nodup) (hk : k ∈ ks) :
    block? ("pub mod " ++ k.module) (carriersBody ks) =
      some (["use super::*;", "", "/// Field values of type `" ++ Text.docText k.typeKey ++ "`."] ++
        structLines k.record (k.record.fields.map FieldText.ofField) true) := by
  have hfront := front?_keyword "pub mod " k.module (by decide) (by decide)
  have htrait : Lacks ("pub mod " ++ k.module)
      (customFieldsTrait SdkType.typeReference.name) :=
    lacks_customFieldsTrait hfront (append_ne (by decide) (by decide) _) _
  obtain ⟨before, after, rfl, hne⟩ := exists_split_of_nodup hmodules hk
  have hbefore : Lacks ("pub mod " ++ k.module) (before.map fun c =>
      carrierLines SdkType.typeReference.name SdkType.customFields.name c
        (c.record.fields.map FieldText.ofField)).flatten := by
    rw [lacks_flatten_iff, List.forall_mem_map]
    intro other hother
    obtain ⟨above, hlines, habove⟩ := exists_carrierLines_eq SdkType.typeReference.name
      SdkType.customFields.name (other.record.fields.map FieldText.ofField) (k := other)
    rw [hlines, lacks_append_iff, lacks_append_iff]
    exact ⟨habove _, lacks_block hfront
      (fun heq => hne other hother (String.append_right_inj _ |>.mp heq)) _,
      lacks_singleton hfront (by decide) (by decide)⟩
  obtain ⟨above, hlines, habove⟩ := exists_carrierLines_eq SdkType.typeReference.name
    SdkType.customFields.name (k.record.fields.map FieldText.ofField) (k := k)
  rw [carriersBody, block?_append htrait, List.map_append, List.flatten_append,
    block?_append hbefore, List.map_cons, List.flatten_cons, hlines, List.append_assoc,
    block?_append (habove _), List.append_assoc, block?_block_append]

theorem space_notMem_of_isIdentifier (h : isIdentifier name = true) : ' ' ∉ name.toList := by
  intro hspace
  have hword := isWordChar_of_isIdentifier h ' ' hspace
  exact absurd hword (by decide)

/-- The name of a class has no blank in it, so no implementation of a trait is taken for one of the
class's own functions. -/
theorem impl_ne_impl_for (h : isIdentifier name = true) (other : String) :
    "impl " ++ name ≠ "impl TypedVariantAttributes for " ++ other := by
  intro heq
  have hhead : "impl TypedVariantAttributes for " ++ other =
      "impl " ++ ("TypedVariantAttributes for " ++ other) := by
    rw [← String.append_assoc]
    rfl
  rw [hhead, String.append_right_inj] at heq
  apply space_notMem_of_isIdentifier h
  rw [heq, String.toList_append, List.mem_append]
  exact .inl (by decide)

theorem exists_attributesPart_eq (as : List AttributesClass) (a : AttributesClass) :
    ∃ comparable rest, attributesPart as a =
      ["/// Typed attributes of product type `" ++ Text.docText a.productTypeId ++ "`."] ++
        (structLines a.struct (a.struct.fields.map FieldText.ofField) comparable ++ rest) := by
  rw [attributesPart, attributesLines, List.append_assoc, List.append_assoc]
  exact ⟨_, _, rfl⟩

theorem lacks_aboveStruct (hfront : head.front? = some 'p' ∨ head.front? = some 'i')
    (htrait : head ≠ "pub trait TypedVariantAttributes")
    (hfunction : ∀ tail, Lacks head ["pub fn from_attributes<T>(attributes: &[" ++ tail])
    {parts : List (List String)} (hparts : ∀ part ∈ parts, Lacks head part)
    (attributeType productTypeId : String) :
    Lacks head (variantAttributesTrait ++ fromAttributesFunction attributeType ++ parts.flatten ++
      ["/// Typed attributes of product type `" ++ Text.docText productTypeId ++ "`."]) := by
  rw [lacks_append_iff, lacks_append_iff, lacks_flatten_iff, String.append_assoc]
  exact ⟨⟨lacks_attributesIntro hfront htrait hfunction attributeType, hparts⟩,
    lacks_append hfront _ _ (by decide) (by decide) (by decide)⟩

/-- A class has one struct and one block of functions of its own, wherever it is in the file. -/
theorem exists_attributesBody_eq (hnames : (as.map (·.struct.name)).Nodup)
    (hname : isIdentifier a.struct.name = true) (ha : a ∈ as) :
    ∃ before comparable rest, attributesBody as = before ++
        (structLines a.struct (a.struct.fields.map FieldText.ofField) comparable ++ rest) ∧
      Lacks ("pub struct " ++ a.struct.name) before ∧ Lacks ("impl " ++ a.struct.name) before := by
  obtain ⟨xs, ys, has, hne⟩ := exists_split_of_nodup hnames ha
  have hparts : (as.map (attributesPart as)).flatten = (xs.map (attributesPart as)).flatten ++
      (attributesPart as a ++ (ys.map (attributesPart as)).flatten) := by
    have hsplit := congrArg (fun cs => (cs.map (attributesPart as)).flatten) has
    simpa using hsplit
  have hstruct := front?_keyword "pub struct " a.struct.name (by decide) (by decide)
  have himpl := front?_keyword "impl " a.struct.name (by decide) (by decide)
  have hstructs : ∀ part ∈ xs.map (attributesPart as),
      Lacks ("pub struct " ++ a.struct.name) part := by
    refine List.forall_mem_map.mpr fun x hx => lacks_attributesPart hstruct
      (fun heq => hne x hx ((String.append_right_inj _).mp heq)) ?_ ?_
    · exact append_ne_append (by decide) (by decide) _ _
    · exact append_ne_append (by decide) (by decide) _ _
  have himpls : ∀ part ∈ xs.map (attributesPart as), Lacks ("impl " ++ a.struct.name) part := by
    refine List.forall_mem_map.mpr fun x hx => lacks_attributesPart himpl ?_
      (fun heq => hne x hx ((String.append_right_inj _).mp heq)) (impl_ne_impl_for hname _)
    exact append_ne_append (by decide) (by decide) _ _
  obtain ⟨comparable, rest, hpart⟩ := exists_attributesPart_eq as a
  refine ⟨_, comparable, rest ++ ((ys.map (attributesPart as)).flatten ++ (anyAttributesEnum as ++
    anyAttributesImpl SdkType.rawAttribute.name as)), ?_,
    lacks_aboveStruct hstruct (append_ne (by decide) (by decide) _)
      (lacks_keyword (by decide) (by decide) _) hstructs SdkType.rawAttribute.name a.productTypeId,
    lacks_aboveStruct himpl (append_ne (by decide) (by decide) _)
      (lacks_keyword (by decide) (by decide) _) himpls SdkType.rawAttribute.name a.productTypeId⟩
  rw [attributesBody, hparts, hpart]
  simp only [List.append_assoc]

end Files

section Declared

/-- What is read off a file for a field: its identifier, type and raw name, and that it may be left
out exactly if its type is written as an optional one. -/
structure IsWrittenAs (sdkCrate : String) (x : OutputField) (f : WrittenField) : Prop where
  ident : f.ident = ofName x.name
  type : f.type = ((typeText sdkCrate x.type).run ∅).1
  raw : f.raw = x.raw
  optional : f.optional = true ↔ "Option<".toList <+: f.type.toList

/-- Among the lines are the struct of the class and its constructor. The struct has the fields of
the class in their order, and the constructor takes and sets just these. -/
def DeclaresFields (sdkCrate : String) (cls : OutputClass) (lines : List String) : Prop :=
  ∃ fields, structFields? cls.name lines = some fields ∧
    constructor? cls.name lines =
      some (fields.map fun f => (f.ident, f.type), fields.map (·.ident)) ∧
    List.Forall₂ (IsWrittenAs sdkCrate) cls.fields fields

/-- The lines with the struct that has the typed fields of the class: for custom fields it is in a
module of its own. -/
def structScope? (d : Domain) (cls : OutputClass) (lines : List String) : Option (List String) :=
  match d with
  | .customFields => block? ("pub mod " ++ ofName cls.name) lines
  | .variantAttributes => some lines

theorem declaresFields_of_isMapped {comparable : Bool} {before : List String}
    (hmapped : cls.IsMapped) (hstruct : Lacks ("pub struct " ++ cls.name) before)
    (himpl : Lacks ("impl " ++ cls.name) before) (rest : List String) :
    DeclaresFields sdkCrate cls
      (before ++ (structLines cls (cls.fields.map FieldText.ofField) comparable ++ rest)) := by
  have hlegible (x : OutputField) (hx : x ∈ cls.fields) : Legible x :=
    ⟨isWord_ofName (hmapped.names x hx), isWord_typeText (hmapped.types x hx)⟩
  refine ⟨_, structFields?_structLines hlegible hstruct rest, ?_, ?_⟩
  · rw [constructor?_structLines hlegible himpl rest, List.map_map, List.map_map]
    rfl
  · rw [List.forall₂_map_right_iff, List.forall₂_same]
    intro x hx
    refine ⟨rfl, ?_, rfl, (option_prefix_typeText_iff (hmapped.types x hx)).symm⟩
    rw [writes_typeText x.type ∅]
    rfl

theorem declaresFields_of_customFields {ts : List CustomFieldType}
    (hu : (assembleCustomFields c ts).outcome = .ok u) (h : unitLines sdkCrate u = .ok ls) :
    ∀ cls ∈ u.classes, ∃ scope, structScope? u.domain cls ls = some scope ∧
      DeclaresFields sdkCrate cls.typedFields scope := by
  obtain ⟨-, hclasses, -, hd, -⟩ := assembleCustomFields_eq_ok_iff.mp hu
  obtain ⟨ks, hks, rfl⟩ := exists_carriersBody hd h
  obtain ⟨hcarries, hfresh⟩ := carrierClasses_eq_ok_iff.mp hks
  have hmodules : (ks.map (·.module)).Nodup := by
    rw [← Outcome.map_eq_map_of_forall₂ hcarries fun _ _ hk => hk.module.symm]
    exact fresh_nil_iff.mp hfresh
  intro cls hcls
  obtain ⟨k, hk, hcarry⟩ := Outcome.exists_of_mem_forall₂ hcarries.flip hcls
  obtain ⟨t, -, ht⟩ := Outcome.exists_of_mem_forall₂ hclasses hcls
  have hscope := block?_carriersBody hmodules hk
  rw [← block?_linesWith (front?_keyword "pub mod " k.module (by decide) (by decide)),
    hcarry.module, hcarry.record] at hscope
  have habove {head : String} (hfront : head.front? = some 'p' ∨ head.front? = some 'i') :
      Lacks head ["use super::*;", "",
        "/// Field values of type `" ++ Text.docText k.typeKey ++ "`."] := by
    rw [String.append_assoc]
    exact lacks_cons (lacks_singleton hfront (by decide) (by decide))
      (lacks_cons (lacks_singleton hfront (by decide) (by decide))
        (lacks_append hfront _ _ (by decide) (by decide) (by decide)))
  refine ⟨_, by rw [hd]; exact hscope, ?_⟩
  rw [← List.append_nil (structLines _ _ _)]
  exact declaresFields_of_isMapped (CustomFieldType.isMapped_of_synthesize ht)
    (habove (front?_keyword _ _ (by decide) (by decide)))
    (habove (front?_keyword _ _ (by decide) (by decide))) []

theorem declaresFields_of_variantAttributes {s : Schema} {ps : List ProductType}
    (hu : (assembleVariantAttributes s c ps).outcome = .ok u) (h : unitLines sdkCrate u = .ok ls) :
    ∀ cls ∈ u.classes, ∃ scope, structScope? u.domain cls ls = some scope ∧
      DeclaresFields sdkCrate cls.typedFields scope := by
  obtain ⟨-, hclasses, hnames, hd, -⟩ := assembleVariantAttributes_eq_ok_iff.mp hu
  obtain ⟨as, has, rfl⟩ := exists_attributesBody hd h
  rw [← map_struct_of_attributesClasses has, List.map_map] at hnames
  intro cls hcls
  obtain ⟨a, ha, -, -, rfl⟩ :=
    Outcome.exists_of_mem_forall₂ (attributesClasses_eq_ok_iff.mp has).flip hcls
  obtain ⟨p, -, hp⟩ := Outcome.exists_of_mem_forall₂ hclasses hcls
  obtain ⟨hname, -, hnested⟩ := ProductType.name_and_projection_of_synthesize hp
  obtain ⟨before, comparable, rest, hbody, hstruct, himpl⟩ :=
    exists_attributesBody_eq hnames (Configuration.isIdentifier_className hname) ha
  have htyped : a.struct.typedFields = a.struct := by
    rw [OutputClass.typedFields, hnested]
    rfl
  refine ⟨_, by rw [hd]; rfl, ?_⟩
  rw [htyped, linesWith, hbody, ← List.append_assoc]
  exact declaresFields_of_isMapped (ProductType.isMapped_of_synthesize hp)
    (lacks_append_iff.mpr
      ⟨lacks_imports (front?_keyword _ _ (by decide) (by decide)) _ _ _, hstruct⟩)
    (lacks_append_iff.mpr
      ⟨lacks_imports (front?_keyword _ _ (by decide) (by decide)) _ _ _, himpl⟩) rest

/-- In the file of an assembled unit the struct of a class has its typed fields in their order, its
constructor takes a parameter for each of them and sets them all, and just the fields that are
written with an optional type may be left out. -/
theorem declaresFields_of_render (hu : u.Assembled c) (h : render c' u = .ok text) :
    ∃ ls, unitLines c'.sdkCrate u = .ok ls ∧ text = ofLines ls ∧
      ∀ cls ∈ u.classes, ∃ scope, structScope? u.domain cls ls = some scope ∧
        DeclaresFields c'.sdkCrate cls.typedFields scope := by
  rw [render, Outcome.map_eq_ok_iff] at h
  obtain ⟨ls, hls, htext⟩ := h
  refine ⟨ls, hls, htext.symm, ?_⟩
  cases hu with
  | customFields hu => exact declaresFields_of_customFields hu hls
  | variantAttributes hu => exact declaresFields_of_variantAttributes hu hls

def shelf : ProductType :=
  { id := "p", name := "Shelf", attributes :=
      [{ name := "type", type := .text },
       { name := "widths", type := .set .number, required := true }] }

theorem declaresFields_of_render_shelf :
    ∃ u text ls, u.Assembled {} ∧ render {} u = .ok text ∧ text = ofLines ls ∧
      ∃ fields, structFields? "TypedShelfVariantAttributes" ls = some fields ∧
        fields.map (fun f => (f.ident, f.type)) =
          [("r#type", "Option<String>"), ("widths", "Vec<f64>")] ∧
        fields.map (·.optional) = [true, false] := by
  obtain ⟨u, hu, hd, text, h, cls, hcls, hname, hnested, hfields⟩ :
      ∃ u, (assembleVariantAttributes (.ofCollections [] [shelf]) {} [shelf]).outcome = .ok u ∧
        u.domain = .variantAttributes ∧ ∃ text, render {} u = .ok text ∧
        ∃ cls ∈ u.classes, cls.name = "TypedShelfVariantAttributes" ∧ cls.nested = none ∧
        cls.fields = [⟨"type", ⟨.primitive .string, true⟩, "type"⟩,
          ⟨"widths", ⟨.set false (.primitive .double), false⟩, "widths"⟩] :=
    ⟨_, rfl, rfl, _, rfl, _, List.mem_cons_self, rfl, rfl, rfl⟩
  obtain ⟨ls, -, htext, hdeclares⟩ := declaresFields_of_render (.variantAttributes hu) h
  obtain ⟨scope, hscope, fields, hread, -, hwritten⟩ := hdeclares cls hcls
  rw [OutputClass.typedFields, hnested, Option.getD_none] at hread hwritten
  rw [hd] at hscope
  cases hscope
  rw [hname] at hread
  rw [hfields] at hwritten
  refine ⟨u, text, ls, .variantAttributes hu, h, htext, fields, hread, ?_⟩
  obtain _ | ⟨⟨hident, htype, -, hoptional⟩, _ | ⟨⟨hident', htype', -, hoptional'⟩, _ | _⟩⟩ :=
    hwritten
  have hleft := hoptional.mpr (by rw [htype]; decide +kernel)
  have hkept := mt hoptional'.mp (by rw [htype']; decide +kernel)
  rw [List.map_cons, List.map_cons, List.map_nil, hident, htype, hident', htype', List.map_cons,
    List.map_cons, List.map_nil, hleft, Bool.eq_false_iff.mpr hkept]
  exact ⟨by decide +kernel, rfl⟩

end Declared

end SchemaProjection
