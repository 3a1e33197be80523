import SchemaProjection.Proofs.Generation
import SchemaProjection.Proofs.Source.RawTexts

namespace SchemaProjection.RawTexts

open Source Text

variable {f : String → String} {sdkCrate : String} {u : OutputUnit} {classes : List OutputClass}
  {ks : List CarrierClass} {as : List AttributesClass} {s : Schema} {c : Configuration}

def classTexts (c : OutputClass) : List (Place × String) :=
  match c.projection with
  | .customFields typeKey => carrierTexts typeKey c.typedFields
  | .variantAttributes productTypeId => attributesTexts productTypeId c
  | .record => []

def armTexts (c : OutputClass) : List (Place × String) :=
  match c.projection with
  | .variantAttributes productTypeId => [(.arm c.name, productTypeId)]
  | _ => []

/-- The raw texts of a file, each with its place, in order. -/
def unitTexts (u : OutputUnit) : List (Place × String) :=
  u.classes.flatMap classTexts ++ u.classes.flatMap armTexts

theorem fieldPaths_retext (f : String → String) (c : OutputClass) :
    fieldPaths sdkCrate (c.retext f).fields = fieldPaths sdkCrate c.fields := by
  rw [OutputClass.fields_retext, fieldPaths, fieldPaths, List.flatMap_map]
  rfl

theorem identifierClash_retext (f : String → String) (c : OutputClass) :
    identifierClash (c.retext f) = none ↔ identifierClash c = none := by
  rw [identifierClash_eq_none_iff, identifierClash_eq_none_iff, OutputClass.fields_retext,
    List.map_map]
  rfl

theorem carries_retext (f : String → String) {c : OutputClass} {k : CarrierClass}
    (h : Carries c k) : Carries (c.retext f) (k.retext f) where
  typeKey := by
    rw [OutputClass.projection_retext, h.typeKey]
    rfl
  name := by
    rw [OutputClass.name_retext, ← h.name]
    rfl
  module := by
    rw [OutputClass.name_retext, ← h.module]
    rfl
  record := by
    rw [OutputClass.typedFields_retext, ← h.record]
    rfl
  fields := by
    rw [OutputClass.typedFields_retext, identifierClash_retext]
    exact h.fields

theorem carrierClasses_retext (f : String → String) (h : carrierClasses [] classes = .ok ks) :
    carrierClasses [] (classes.map (·.retext f)) = .ok (ks.map (·.retext f)) := by
  rw [carrierClasses_eq_ok_iff] at h ⊢
  rw [List.forall₂_map_left_iff, List.forall₂_map_right_iff, List.map_map]
  refine ⟨h.1.imp fun c k => carries_retext f, ?_⟩
  simpa only [Function.comp_def, OutputClass.name_retext] using h.2

theorem attributesClasses_retext (f : String → String) (h : attributesClasses classes = .ok as) :
    attributesClasses (classes.map (·.retext f)) = .ok (as.map (·.retext f)) := by
  rw [attributesClasses_eq_ok_iff] at h ⊢
  rw [List.forall₂_map_left_iff, List.forall₂_map_right_iff]
  refine h.imp fun c a ha => ?_
  obtain ⟨hp, hnone, rfl⟩ := ha
  rw [OutputClass.projection_retext, hp, identifierClash_retext]
  exact ⟨rfl, hnone, rfl⟩

theorem retexted_carriersBody (f : String → String) (ks : List CarrierClass) :
    Retexted f (ks.flatMap fun k => carrierTexts k.typeKey k.record) (carriersBody ks)
      (carriersBody (ks.map (·.retext f))) := by
  rw [carriersBody, carriersBody, ← List.flatMap_def, List.map_map, ← List.flatMap_def]
  exact .same_append _ (.flatMap fun k _ => retexted_carrierLines f _ _ k)

theorem name_struct_retext (a : AttributesClass) : (a.retext f).struct.name = a.struct.name :=
  OutputClass.name_retext a.struct

theorem anyAttributesEnum_retext (f : String → String) (as : List AttributesClass) :
    anyAttributesEnum (as.map (·.retext f)) = anyAttributesEnum as := by
  rw [anyAttributesEnum, anyAttributesEnum, List.flatMap_map]
  simp only [name_struct_retext]

theorem retexted_arm (f : String → String) (a : AttributesClass) :
    Retexted f [(.arm a.struct.name, a.productTypeId)] [fromAttributesArm a]
      [fromAttributesArm (a.retext f)] := by
  rw [arm_eq_line, arm_eq_line, name_struct_retext]
  exact .place f (.arm a.struct.name) a.productTypeId

theorem retexted_anyAttributesImpl (f : String → String) (attributeType : String)
    (as : List AttributesClass) :
    Retexted f (as.map fun a => (.arm a.struct.name, a.productTypeId))
      (anyAttributesImpl attributeType as)
      (anyAttributesImpl attributeType (as.map (·.retext f))) := by
  have harms : Retexted f (as.map fun a => (.arm a.struct.name, a.productTypeId))
      (as.map fromAttributesArm) ((as.map (·.retext f)).map fromAttributesArm) := by
    rw [List.map_map, List.map_eq_flatMap, List.map_eq_flatMap, List.map_eq_flatMap]
    exact .flatMap fun a _ => retexted_arm f a
  have hnames : ((as.map (·.retext f)).map fun a =>
      "Self::" ++ a.struct.name ++ "(typed) => typed,") =
      as.map fun a => "Self::" ++ a.struct.name ++ "(typed) => typed," := by
    simp only [List.map_map, Function.comp_def, name_struct_retext]
  rw [anyAttributesImpl, anyAttributesImpl, hnames]
  refine .block _ (.append_same (.append_same (.same_append _ ?_) _) _)
  exact .block _ (.block _ (harms.append_same _))

theorem retexted_attributesBody (f : String → String) (as : List AttributesClass) :
    Retexted f ((as.flatMap fun a => attributesTexts a.productTypeId a.struct) ++
        as.map fun a => (.arm a.struct.name, a.productTypeId))
      (attributesBody as) (attributesBody (as.map (·.retext f))) := by
  have hparts : Retexted f (as.flatMap fun a => attributesTexts a.productTypeId a.struct)
      (as.map (attributesPart as)).flatten
      ((as.map (·.retext f)).map (attributesPart (as.map (·.retext f)))).flatten := by
    rw [List.map_map, ← List.flatMap_def, ← List.flatMap_def]
    exact .flatMap fun a _ => retexted_attributesPart f as a
  rw [attributesBody, attributesBody, anyAttributesEnum_retext]
  exact ((hparts.same_append _).append_same _).append (retexted_anyAttributesImpl f _ as)

theorem unitTexts_of_carries (h : List.Forall₂ Carries u.classes ks) :
    unitTexts u = ks.flatMap fun k => carrierTexts k.typeKey k.record := by
  have hclasses : u.classes.flatMap classTexts =
      ks.flatMap fun k => carrierTexts k.typeKey k.record := by
    rw [List.flatMap_def, List.flatMap_def]
    refine congrArg List.flatten (Outcome.map_eq_map_of_forall₂ h fun c k hk => ?_)
    rw [classTexts, hk.typeKey, hk.record]
  have harms : u.classes.flatMap armTexts = [] := by
    rw [List.flatMap_eq_nil_iff]
    intro c hc
    obtain ⟨k, -, hk⟩ := Outcome.exists_of_mem_forall₂ h.flip hc
    rw [armTexts, hk.typeKey]
  rw [unitTexts, hclasses, harms, List.append_nil]

theorem unitTexts_of_attributesClasses (h : attributesClasses u.classes = .ok as) :
    unitTexts u = (as.flatMap fun a => attributesTexts a.productTypeId a.struct) ++
      as.map fun a => (.arm a.struct.name, a.productTypeId) := by
  have hc := attributesClasses_eq_ok_iff.mp h
  have hclasses : u.classes.flatMap classTexts =
      as.flatMap fun a => attributesTexts a.productTypeId a.struct := by
    rw [List.flatMap_def, List.flatMap_def]
    refine congrArg List.flatten (Outcome.map_eq_map_of_forall₂ hc fun c a ha => ?_)
    rw [classTexts, ha.1, ha.2.2]
  have harms : u.classes.flatMap armTexts =
      as.flatMap fun a => [(.arm a.struct.name, a.productTypeId)] := by
    rw [List.flatMap_def, List.flatMap_def]
    refine congrArg List.flatten (Outcome.map_eq_map_of_forall₂ hc fun c a ha => ?_)
    rw [armTexts, ha.1, ha.2.2]
  rw [unitTexts, hclasses, harms, List.map_eq_flatMap]

theorem retexted_customFieldsLines (f : String → String) (ks : List CarrierClass) :
    ((customFieldsLines sdkCrate (ks.map (·.retext f))).run ∅).2 =
        ((customFieldsLines sdkCrate ks).run ∅).2 ∧
      Retexted f (ks.flatMap fun k => carrierTexts k.typeKey k.record)
        ((customFieldsLines sdkCrate ks).run ∅).1
        ((customFieldsLines sdkCrate (ks.map (·.retext f))).run ∅).1 := by
  have hpaths : carriersPaths sdkCrate (ks.map (·.retext f)) = carriersPaths sdkCrate ks := by
    rw [carriersPaths, carriersPaths, List.flatMap_map]
    simp only [CarrierClass.retext, fieldPaths_retext]
  rw [writes_customFieldsLines, writes_customFieldsLines, hpaths]
  exact ⟨rfl, retexted_carriersBody f ks⟩

theorem retexted_variantAttributesLines (f : String → String) (as : List AttributesClass) :
    ((variantAttributesLines sdkCrate (as.map (·.retext f))).run ∅).2 =
        ((variantAttributesLines sdkCrate as).run ∅).2 ∧
      Retexted f ((as.flatMap fun a => attributesTexts a.productTypeId a.struct) ++
          as.map fun a => (.arm a.struct.name, a.productTypeId))
        ((variantAttributesLines sdkCrate as).run ∅).1
        ((variantAttributesLines sdkCrate (as.map (·.retext f))).run ∅).1 := by
  have hpaths : attributesPaths sdkCrate (as.map (·.retext f)) = attributesPaths sdkCrate as := by
    rw [attributesPaths, attributesPaths, List.flatMap_map]
    simp only [AttributesClass.retext, fieldPaths_retext]
  rw [writes_variantAttributesLines, writes_variantAttributesLines, hpaths]
  exact ⟨rfl, retexted_attributesBody f as⟩

theorem unitBody_retext (f : String → String) {body : Importing (List String)}
    (h : unitBody sdkCrate u = .ok body) :
    ∃ body', unitBody sdkCrate (u.retext f) = .ok body' ∧ (body'.run ∅).2 = (body.run ∅).2 ∧
      Retexted f (unitTexts u) (body.run ∅).1 (body'.run ∅).1 := by
  have hdomain : (u.retext f).domain = u.domain := rfl
  have hclasses : (u.retext f).classes = u.classes.map (·.retext f) := rfl
  rw [unitBody] at h
  rw [unitBody, hdomain, hclasses]
  cases hd : u.domain with
  | customFields =>
    simp only [hd, Outcome.map_eq_ok_iff] at h
    obtain ⟨ks, hks, rfl⟩ := h
    refine ⟨_, Outcome.map_eq_ok_iff.mpr ⟨_, carrierClasses_retext f hks, rfl⟩, ?_⟩
    rw [unitTexts_of_carries (carrierClasses_eq_ok_iff.mp hks).1]
    exact retexted_customFieldsLines f ks
  | variantAttributes =>
    simp only [hd, Outcome.map_eq_ok_iff] at h
    obtain ⟨as, has, rfl⟩ := h
    refine ⟨_, Outcome.map_eq_ok_iff.mpr ⟨_, attributesClasses_retext f has, rfl⟩, ?_⟩
    rw [unitTexts_of_attributesClasses has]
    exact retexted_variantAttributesLines f as

theorem render_retext (f : String → String) {text : String}
    (h : render c u = .ok text) :
    ∃ lines lines', text = ofLines lines ∧ render c (u.retext f) = .ok (ofLines lines') ∧
      Retexted f (unitTexts u) lines lines' := by
  rw [render_eq_map, Outcome.map_eq_ok_iff] at h
  obtain ⟨body, hbody, rfl⟩ := h
  obtain ⟨body', hbody', himports, hlines⟩ := unitBody_retext f hbody
  refine ⟨_, _, rfl, ?_, hlines.same_append (headerLines u.domain u.package ++
    useLines (body.run ∅).2 ++ [""])⟩
  rw [render_eq_map, Outcome.map_eq_ok_iff]
  refine ⟨body', hbody', ?_⟩
  rw [fileText, himports]
  rfl

theorem mem_structTexts_of_field {cls : OutputClass} {x : OutputField} (hx : x ∈ cls.fields) :
    (.rename x.type.nullable, x.raw) ∈ structTexts cls :=
  List.mem_append_left _ (List.mem_map.mpr ⟨x, hx, rfl⟩)

theorem mem_structTexts_of_constant {cls : OutputClass} {k : OutputConstant}
    (hk : k ∈ cls.constants) : (.constant k.name, k.value) ∈ structTexts cls :=
  List.mem_append_right _ (List.mem_flatMap.mpr ⟨k, hk, .tail _ List.mem_cons_self⟩)

theorem mem_unitTexts_of_mem_classes {cls : OutputClass} (hcls : cls ∈ u.classes)
    {p : Place × String} (hp : p ∈ classTexts cls) : p ∈ unitTexts u :=
  List.mem_append_left _ (List.mem_flatMap.mpr ⟨cls, hcls, hp⟩)

theorem texts_of_customFields (h : (s.customFieldsUnit c).outcome = .ok u) {t : CustomFieldType}
    (ht : t ∈ s.types) :
    (.typeKey, t.key) ∈ unitTexts u ∧
      ∀ d ∈ t.fields, ∃ optional, (.rename optional, d.name) ∈ unitTexts u := by
  obtain ⟨cls, hcls, hsynth⟩ := Schema.exists_class_of_mem_types h ht
  obtain ⟨name, fields, -, hfields, -, rfl⟩ := CustomFieldType.synthesize_eq_ok_iff.mp hsynth
  refine ⟨mem_unitTexts_of_mem_classes hcls (.tail _ List.mem_cons_self), fun d hd => ?_⟩
  obtain ⟨x, hx, hout⟩ := Outcome.exists_of_mem_forall₂ hfields.flip hd
  obtain ⟨-, -, hraw⟩ := CustomFieldType.outputField_eq_ok_iff.mp hout
  have hmem : (Place.rename x.type.nullable, x.raw) ∈
      structTexts (CustomFieldType.record fields) := mem_structTexts_of_field hx
  rw [hraw] at hmem
  exact ⟨_, mem_unitTexts_of_mem_classes hcls (List.mem_append_right _ hmem)⟩

theorem texts_of_variantAttributes (h : (s.variantAttributesUnit c).outcome = .ok u)
    {p : ProductType} (hp : p ∈ s.productTypes) :
    (.productTypeId, p.id) ∈ unitTexts u ∧ (∃ name, (.arm name, p.id) ∈ unitTexts u) ∧
      ∀ d ∈ p.attributes, ∃ optional name, (.rename optional, d.name) ∈ unitTexts u ∧
        (.constant name, d.name) ∈ unitTexts u := by
  obtain ⟨-, hclasses, -⟩ := Schema.variantAttributesUnit_eq_ok_iff.mp h
  obtain ⟨cls, hcls, hsynth⟩ := Outcome.exists_of_mem_forall₂ hclasses.flip hp
  obtain ⟨name, members, -, hmembers, -, -, rfl⟩ := ProductType.synthesize_eq_ok_iff.mp hsynth
  refine ⟨?_, ⟨name, ?_⟩, fun d hd => ?_⟩
  · exact mem_unitTexts_of_mem_classes hcls (List.mem_append_right _ List.mem_cons_self)
  · exact List.mem_append_right _ (List.mem_flatMap.mpr ⟨_, hcls, List.mem_cons_self⟩)
  · obtain ⟨m, hm, hout⟩ := Outcome.exists_of_mem_forall₂ hmembers.flip hd
    obtain ⟨-, -, -, hraw, hvalue⟩ := ProductType.outputField_eq_ok_iff.mp hout
    have htext {q : Place × String} (hq : q ∈ structTexts _) : q ∈ unitTexts u :=
      mem_unitTexts_of_mem_classes hcls
        (List.mem_append_left _ (List.mem_append_right _ hq))
    have hfield := htext (mem_structTexts_of_field (List.mem_map_of_mem (f := (·.1)) hm))
    have hconstant := htext (mem_structTexts_of_constant (List.mem_map_of_mem (f := (·.2)) hm))
    rw [hraw] at hfield
    rw [hvalue] at hconstant
    exact ⟨_, _, hfield, hconstant⟩

theorem readLiteral_line (p : Place) (s : String) :
    readLiteral ((p.line s).toList.drop p.before.length) = some (s, p.after.toList) ∨
      (p.spell s = docText s ∧ "///".toList <+: p.before.toList) := by
  have hread (hl : p.spell s = literal s) :
      readLiteral ((p.line s).toList.drop p.before.length) = some (s, p.after.toList) := by
    rw [Place.line, hl, String.toList_append, String.toList_append, List.append_assoc,
      ← String.length_toList, List.drop_left, readLiteral_literal]
  cases p with
  | rename | constant | typeKey | productTypeId | arm => exact .inl (hread rfl)
  | _ => exact .inr ⟨rfl, by decide +kernel⟩

/-- The text cannot be mistaken in a file: its literal is read as the text and ends before what
comes after it, and nowhere does the text end a line. -/
structure Faithful (s : String) : Prop where
  reads : ∀ rest, readLiteral ((literal s).toList ++ rest) = some (s, rest)
  guarded : ∃ inner, (literal s).toList = '"' :: (inner ++ ['"']) ∧ Guarded inner
  literal_unbroken : ∀ ch ∈ (literal s).toList, ch ∉ lineBreaks
  comment_unbroken : ∀ ch ∈ (docText s).toList, ch ∉ lineBreaks

theorem faithful (s : String) : Faithful s where
  reads := readLiteral_literal s
  guarded := ⟨_, toList_literal s, guarded_flatMap_escapeChar _⟩
  literal_unbroken ch h := notMem_lineBreaks_of_isPrintable (isPrintable_of_mem_literal s ch h)
  comment_unbroken ch h := notMem_lineBreaks_of_isPrintable (isPrintable_of_mem_docText s ch h)

/-- Every text is faithfully written, and no two in the same way. The raw texts of a schema are
among those of its files; each of these stands at its place, and with others in their stead a file
is the same around them. -/
theorem raw_texts_confined :
    (∀ s, Faithful s) ∧ Function.Injective literal ∧
    (∀ (p : Place) s, readLiteral ((p.line s).toList.drop p.before.length) =
        some (s, p.after.toList) ∨ (p.spell s = docText s ∧ "///".toList <+: p.before.toList)) ∧
    (∀ c u text, render c u = .ok text → ∀ f, ∃ lines lines',
      text = ofLines lines ∧ render c (u.retext f) = .ok (ofLines lines') ∧
        Retexted f (unitTexts u) lines lines') ∧
    (∀ (s : Schema) c u, (s.customFieldsUnit c).outcome = .ok u → ∀ t ∈ s.types,
      (.typeKey, t.key) ∈ unitTexts u ∧
        ∀ d ∈ t.fields, ∃ optional, (.rename optional, d.name) ∈ unitTexts u) ∧
    ∀ (s : Schema) c u, (s.variantAttributesUnit c).outcome = .ok u → ∀ p ∈ s.productTypes,
      (.productTypeId, p.id) ∈ unitTexts u ∧ (∃ name, (.arm name, p.id) ∈ unitTexts u) ∧
        ∀ d ∈ p.attributes, ∃ optional name, (.rename optional, d.name) ∈ unitTexts u ∧
          (.constant name, d.name) ∈ unitTexts u := by
  refine ⟨faithful, fun s t => literal_inj.mp, readLiteral_line, ?_, ?_, ?_⟩
  · intro c u text h f
    exact render_retext f h
  · intro s c u h t
    exact texts_of_customFields h
  · intro s c u h p
    exact texts_of_variantAttributes h

/-- Its raw texts have what ends literals, attributes, comments and lines. -/
def hostile : OutputUnit where
  domain := .variantAttributes
  package := []
  classes :=
    [{ name := "Odd", fields := [⟨"odd", ⟨.any, true⟩, "\")]\r\n#[\\"⟩], equality := .structural,
       constants := [⟨"ODD", "\")]\r\n#[\\"⟩], projection := .variantAttributes "\u0301`\n*/",
       nested := none }]

theorem raw_texts_confined_hostile :
    ∃ text, render {} hostile = .ok text ∧ ∀ f, ∃ lines lines', text = ofLines lines ∧
      render {} (hostile.retext f) = .ok (ofLines lines') ∧
      Retexted f (unitTexts hostile) lines lines' := by
  obtain ⟨-, -, -, hretext, -, -⟩ := raw_texts_confined
  exact ⟨_, rfl, hretext {} hostile _ rfl⟩

end SchemaProjection.RawTexts
