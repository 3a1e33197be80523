import SchemaProjection.Proofs.Generation
import SchemaProjection.Proofs.Identifier
import SchemaProjection.Proofs.Source.ImportTable
import SchemaProjection.Proofs.Source.UseLines

namespace SchemaProjection.AttributeTypeNames

open Identifier Source

variable {s : Schema} {c : Configuration} {u : OutputUnit} {imports : Imports}
  {as : List AttributesClass} {paths classNames xs : List String}
  {sdkCrate path line stem : String}

section Lines

def itemHeads : List String :=
  ["pub enum ", "pub struct ", "pub trait "]

def wordAfter? (line head : String) : Option String :=
  if head.toList.isPrefixOf line.toList then
    some (.ofList ((line.toList.drop head.toList.length).takeWhile isWordChar))
  else none

/-- The names that a line outside of all blocks brings into the namespace of types: the words after
the last colon of an import, or the name of an item. -/
def namesOfLine (line : String) : List String :=
  if isUseLine line then Text.parts (!isWordChar ·) (lastSegment line)
  else itemHeads.filterMap (wordAfter? line)

/-- What a line begins with that has neither an import nor the head of an item. -/
def Plain (first : Option Char) : Prop :=
  first ≠ some 'u' ∧ first ≠ some 'p'

instance : DecidablePred Plain := fun _ => inferInstanceAs (Decidable (_ ∧ _))

theorem namesOfLine_of_plain (h : Plain line.front?) : namesOfLine line = [] := by
  have hp : ∀ head ∈ itemHeads, head ≠ "" ∧ head.front? = some 'p' := by
    decide
  rw [namesOfLine, isUseLine_eq_false_of_front? h.1, if_neg Bool.false_ne_true,
    List.filterMap_eq_nil_iff]
  intro head hhead
  obtain ⟨hne, hfront⟩ := hp head hhead
  rw [wordAfter?, isPrefixOf_eq_false hne (hfront ▸ h.2), if_neg Bool.false_ne_true]

theorem flatMap_namesOfLine_of_plain (h : ∀ l ∈ xs, Plain l.front?) :
    xs.flatMap namesOfLine = [] :=
  List.flatMap_eq_nil_iff.mpr fun l hl => namesOfLine_of_plain (h l hl)

theorem namesOfLine_useLine (h : path ∈ (importTable sdkCrate).map (·.2)) :
    namesOfLine ("use " ++ path ++ ";") = [lastSegment path] := by
  have hword : ∀ n ∈ importNames, Text.parts (!isWordChar ·) (n ++ ";") = [n] := by
    decide +kernel
  obtain ⟨e, he, rfl⟩ := List.mem_map.mp h
  obtain ⟨hcolon, xs, hxs⟩ := suffix_of_mem_importTable e he
  have hline : ("use " ++ e.2 ++ ";").toList =
      ("use ".toList ++ xs) ++ ':' :: (e.1 ++ ";").toList := by
    simp [String.toList_append, ← hxs]
  have hlast : lastSegment ("use " ++ e.2 ++ ";") = e.1 ++ ";" :=
    lastSegment_eq_of_toList _ hline (by simp [String.toList_append, hcolon])
  have hname := lastSegment_mem_importNames h
  rw [lastSegment_of_mem_importTable e he] at hname ⊢
  rw [namesOfLine, if_pos (isUseLine_useLine _), hlast, hword _ hname]

theorem namesOfLine_structHead {cls : OutputClass} (h : isIdentifier cls.name = true) :
    namesOfLine (structHead cls) = [cls.name] := by
  obtain ⟨rest, hhead⟩ : ∃ rest, (structHead cls).toList =
      "pub struct ".toList ++ (cls.name.toList ++ ' ' :: rest) := by
    rw [structHead]
    split
    · exact ⟨['\x7b', '\x7d'], by simp [String.toList_append]⟩
    · exact ⟨['\x7b'], by simp [String.toList_append]⟩
  have hword : (cls.name.toList ++ ' ' :: rest).takeWhile isWordChar = cls.name.toList := by
    rw [List.takeWhile_append_of_pos (isWordChar_of_isIdentifier h),
      List.takeWhile_cons_of_neg (by decide), List.append_nil]
  have hitem : itemHeads.filterMap (wordAfter? (structHead cls)) =
      [.ofList ((cls.name.toList ++ ' ' :: rest).takeWhile isWordChar)] := by
    simp only [itemHeads, List.filterMap_cons, List.filterMap_nil, wordAfter?, hhead]
    rfl
  rw [namesOfLine, isUseLine_eq_false_of_front? (by rw [front?_structHead]; decide),
    if_neg Bool.false_ne_true, hitem, hword, String.ofList_toList]

theorem flatMap_namesOfLine_block (head : String) (body : List String) :
    (block head body).flatMap namesOfLine = namesOfLine (head ++ " \x7b") := by
  have hbody : (indented body).flatMap namesOfLine = [] :=
    flatMap_namesOfLine_of_plain (front?_of_mem_indented (p := Plain) (by decide) (by decide))
  have hclose : namesOfLine "\x7d" = [] := namesOfLine_of_plain (by decide)
  rw [block, List.cons_append, List.flatMap_cons, List.flatMap_append, hbody, List.flatMap_cons,
    hclose]
  exact List.append_nil _

theorem flatMap_namesOfLine_attributesPart (as : List AttributesClass) {a : AttributesClass}
    (h : isIdentifier a.struct.name = true) :
    (attributesPart as a).flatMap namesOfLine = [a.struct.name] := by
  obtain ⟨tail, hlines, htail⟩ := exists_structLines_eq a.struct
    (!(withoutEquality (as.map (·.struct))).contains a.struct.name) (p := Plain)
    (by decide) (by decide) (by decide) (by decide)
  have hdoc : Plain ("/// Typed attributes of product type `" ++
      Text.docText a.productTypeId ++ "`.").front? := by
    rw [String.append_assoc, front?_append _ _ (by decide)]
    decide
  have hderive (comparable : Bool) : Plain (deriveLine a.struct.equality comparable).front? := by
    rw [front?_deriveLine]
    decide
  have himpl : Plain ("impl TypedVariantAttributes for " ++ a.struct.name ++ " \x7b").front? := by
    rw [String.append_assoc, front?_append _ _ (by decide)]
    decide
  rw [attributesPart, attributesLines, hlines]
  simp only [List.flatMap_append, List.flatMap_cons, List.flatMap_nil,
    namesOfLine_of_plain hdoc, namesOfLine_of_plain (hderive _), namesOfLine_structHead h,
    flatMap_namesOfLine_of_plain htail, flatMap_namesOfLine_block, namesOfLine_of_plain himpl]
  rfl

theorem flatMap_namesOfLine_parts (as : List AttributesClass) {ds : List AttributesClass}
    (h : ∀ d ∈ ds, isIdentifier d.struct.name = true) :
    (ds.map (attributesPart as)).flatten.flatMap namesOfLine = ds.map (·.struct.name) := by
  induction ds with
  | nil => rfl
  | cons d ds ih =>
    obtain ⟨hd, hds⟩ := List.forall_mem_cons.mp h
    rw [List.map_cons, List.flatten_cons, List.flatMap_append,
      flatMap_namesOfLine_attributesPart as hd, ih hds]
    rfl

theorem flatMap_namesOfLine_attributesBody (h : ∀ a ∈ as, isIdentifier a.struct.name = true) :
    (attributesBody as).flatMap namesOfLine =
      ["TypedVariantAttributes"] ++ as.map (·.struct.name) ++ ["AnyTypedVariantAttributes"] := by
  have htrait : variantAttributesTrait.flatMap namesOfLine = ["TypedVariantAttributes"] := by
    rw [variantAttributesTrait, List.flatMap_append, List.flatMap_append, flatMap_namesOfLine_block]
    decide +kernel
  have hfunction : (fromAttributesFunction SdkType.rawAttribute.name).flatMap namesOfLine = [] := by
    decide +kernel
  have henum : (anyAttributesEnum as).flatMap namesOfLine = ["AnyTypedVariantAttributes"] := by
    rw [anyAttributesEnum, List.flatMap_append, List.flatMap_append, flatMap_namesOfLine_block]
    decide +kernel
  have himpl : (anyAttributesImpl SdkType.rawAttribute.name as).flatMap namesOfLine = [] := by
    rw [anyAttributesImpl, flatMap_namesOfLine_block]
    exact namesOfLine_of_plain (by decide)
  rw [attributesBody, List.flatMap_append, List.flatMap_append, List.flatMap_append,
    List.flatMap_append, htrait, hfunction, flatMap_namesOfLine_parts as h, henum, himpl,
    List.append_nil, List.append_nil]

theorem flatMap_namesOfLine_headerLines (domain : Domain) (package : List String) :
    (headerLines domain package).flatMap namesOfLine = ["Deserialize", "Serialize"] := by
  have hpackage : Plain ("// Typed " ++ domain.label ++ " projections for package `" ++
      ".".intercalate package ++ "`.").front? := by
    simp only [String.append_assoc]
    rw [front?_append _ _ (by decide)]
    decide
  rw [headerLines]
  simp only [List.flatMap_cons, List.flatMap_nil, namesOfLine_of_plain hpackage]
  decide +kernel

theorem flatMap_namesOfLine_useLines (h : imports.keys ⊆ (importTable sdkCrate).map (·.2)) :
    (useLines imports).flatMap namesOfLine = imports.keys.map lastSegment := by
  have huse (path : String) (hpath : path ∈ imports.keys) := namesOfLine_useLine (h hpath)
  rw [useLines, List.flatMap_map, List.flatMap_congr huse]
  exact List.map_eq_flatMap.symm

end Lines

def ownNames : List String :=
  ["Deserialize", "Serialize", "TypedVariantAttributes", "AnyTypedVariantAttributes"]

def typeNames (paths classNames : List String) : List String :=
  ownNames ++ paths.map lastSegment ++ classNames

theorem typeNames_of_unitLines (hd : u.domain = .variantAttributes)
    (h : unitLines sdkCrate u = .ok xs) (hnames : ∀ cls ∈ u.classes, isIdentifier cls.name = true)
    (hneeded : ∀ path, Needed sdkCrate u path → path ∈ (importTable sdkCrate).map (·.2)) :
    (xs.flatMap namesOfLine).Perm
      (typeNames (unitImports sdkCrate u).keys (u.classes.map (·.name))) := by
  obtain ⟨as, has, rfl⟩ := exists_attributesBody hd h
  have hstructs := map_struct_of_attributesClasses has
  have hempty : [""].flatMap namesOfLine = [] := by
    decide +kernel
  have hclasses : as.map (·.struct.name) = u.classes.map (·.name) := by
    rw [← hstructs, List.map_map]
    rfl
  rw [← hstructs, List.forall_mem_map] at hnames
  rw [linesWith, List.flatMap_append, List.flatMap_append, List.flatMap_append,
    flatMap_namesOfLine_headerLines, flatMap_namesOfLine_attributesBody hnames, hclasses, hempty,
    flatMap_namesOfLine_useLines fun path hpath => hneeded path (mem_keys_unitImports_iff.mp hpath),
    typeNames, ownNames, List.perm_iff_count]
  intro n
  simp only [List.count_append, List.count_cons, List.count_nil]
  omega

section Distinct

/-- Only the trait has the ends of a class name, and it has nothing between them. -/
theorem defaultClassName_notMem (h : stem ≠ "") :
    Domain.variantAttributes.defaultClassName stem ∉ ownNames ++ importNames := by
  have hother : ∀ n ∈ ownNames ++ importNames, n = "Typed" ++ "" ++ "VariantAttributes" ∨
      ¬ ("Typed".toList <+: n.toList ∧ "VariantAttributes".toList <:+ n.toList) := by
    decide +kernel
  intro hm
  obtain he | hends := hother _ hm
  · rw [Domain.defaultClassName, String.append_left_inj, String.append_right_inj] at he
    exact h he
  · exact hends (ends_append _ stem _)

theorem nodup_typeNames (hpaths : paths.Nodup) (hsub : paths ⊆ (importTable sdkCrate).map (·.2))
    (hnames : classNames.Nodup)
    (hdefault : ∀ n ∈ classNames,
      ∃ stem ≠ "", n = Domain.variantAttributes.defaultClassName stem) :
    (typeNames paths classNames).Nodup := by
  have hown : ∀ n ∈ ownNames, n ∉ importNames := by
    decide +kernel
  have hsegments : ∀ n ∈ paths.map lastSegment, n ∈ importNames :=
    List.forall_mem_map.mpr fun p hp => lastSegment_mem_importNames (hsub hp)
  have hclass : ∀ n ∈ classNames, n ∉ ownNames ++ importNames := by
    intro n hn
    obtain ⟨stem, hne, rfl⟩ := hdefault n hn
    exact defaultClassName_notMem hne
  rw [typeNames, List.nodup_append', List.nodup_append']
  refine ⟨⟨by decide, nodup_lastSegments hpaths hsub, ?_⟩, hnames, ?_⟩
  · exact fun n hn hs => hown n hn (hsegments n hs)
  · rw [List.disjoint_append_left]
    exact ⟨fun n hn hc => hclass n hc (List.mem_append_left _ hn),
      fun n hn hc => hclass n hc (List.mem_append_right _ (hsegments n hn))⟩

end Distinct

section Unit

theorem exists_stem_of_unit (h : (s.variantAttributesUnit c).outcome = .ok u)
    (hdefault : ∀ p ∈ s.productTypes,
      (c.overridesFor .variantAttributes p.identity).bind (·.className) = none) :
    ∀ cls ∈ u.classes, isIdentifier cls.name = true ∧
      ∃ stem ≠ "", cls.name = Domain.variantAttributes.defaultClassName stem := by
  intro cls hcls
  obtain ⟨-, hforall, -, -, -⟩ := Schema.variantAttributesUnit_eq_ok_iff.mp h
  obtain ⟨p, hp, hs⟩ := Outcome.exists_of_mem_forall₂ hforall hcls
  have hn := (ProductType.name_and_projection_of_synthesize hs).1
  exact ⟨Configuration.isIdentifier_className hn, _,
    Configuration.pascalCase_ne_empty_of_default (hdefault p hp) hn,
    Configuration.className_of_default (hdefault p hp) hn⟩

theorem mem_importTable_of_needed (h : (s.variantAttributesUnit c).outcome = .ok u) :
    ∀ path, Needed c.sdkCrate u path → path ∈ (importTable c.sdkCrate).map (·.2) := by
  obtain ⟨-, hforall, -, hd, -⟩ := Schema.variantAttributesUnit_eq_ok_iff.mp h
  rintro path (ht | ⟨hcls, hf, hpath⟩)
  · rw [hd] at ht
    have hraw : Domain.variantAttributes.rawTypes ⊆ SdkType.all := by
      decide
    exact importPath_mem_importTable _ (hraw ht)
  · rw [hd] at hf
    obtain ⟨p, -, hs⟩ := Outcome.exists_of_mem_forall₂ hforall hcls
    obtain ⟨d, -, -, ht, -⟩ :=
      Outcome.exists_of_mem_forall₂ (ProductType.forall₂_fields_of_synthesize hs) hf
    have hshape := (AttributeType.output_eq_ok_iff.mp ht).1
    rw [paths_leaf] at hpath
    exact paths_subset_importTable (fun x => AttributeType.mem_all_of_leaf hshape) hpath

/-- Unless a class name is overridden, the names that a file of variant attributes can have in the
namespace of types are distinct: its own, those of its classes, and those of all imports there are.
The file has those of them that it declares and those of what it needs. -/
theorem distinct_type_names (h : (s.variantAttributesUnit c).outcome = .ok u)
    (hdefault : ∀ p ∈ s.productTypes,
      (c.overridesFor .variantAttributes p.identity).bind (·.className) = none) :
    (typeNames ((importTable c.sdkCrate).map (·.2)) (u.classes.map (·.name))).Nodup ∧
    (∀ p ∈ (importTable c.sdkCrate).map (·.2), ∀ q ∈ (importTable c.sdkCrate).map (·.2),
      lastSegment p = lastSegment q → p = q) ∧
    (∀ t : FieldType, t.shape.paths c.sdkCrate ⊆ (importTable c.sdkCrate).map (·.2)) ∧
    (∀ (t : AttributeType) required shape, t.shape s c required = .ok shape →
      shape.paths c.sdkCrate ⊆ (importTable c.sdkCrate).map (·.2)) ∧
    ∀ ls, unitLines c.sdkCrate u = .ok ls →
      (ls.flatMap namesOfLine).Nodup ∧
      ∃ paths ⊆ (importTable c.sdkCrate).map (·.2),
        (∀ path, path ∈ paths ↔ Needed c.sdkCrate u path) ∧
        (ls.flatMap namesOfLine).Perm (typeNames paths (u.classes.map (·.name))) := by
  obtain ⟨-, -, hnames, hd, -⟩ := Schema.variantAttributesUnit_eq_ok_iff.mp h
  have hclasses := exists_stem_of_unit h hdefault
  have hneeded := mem_importTable_of_needed h
  have hnodup {paths : List String} (hpaths : paths.Nodup)
      (hsub : paths ⊆ (importTable c.sdkCrate).map (·.2)) :
      (typeNames paths (u.classes.map (·.name))).Nodup :=
    nodup_typeNames hpaths hsub hnames
      (List.forall_mem_map.mpr fun cls hcls => (hclasses cls hcls).2)
  refine ⟨hnodup (nodup_importPaths _) (List.Subset.refl _), fun p hp q hq => lastSegment_inj hp hq,
    fun t => paths_subset_importTable fun x => FieldType.mem_all_of_leaf,
    fun t required shape ht => paths_subset_importTable fun x => AttributeType.mem_all_of_leaf ht,
    fun ls hls => ?_⟩
  have hperm := typeNames_of_unitLines hd hls (fun cls hcls => (hclasses cls hcls).1) hneeded
  have hsub : (unitImports c.sdkCrate u).keys ⊆ (importTable c.sdkCrate).map (·.2) :=
    fun path hpath => hneeded path (mem_keys_unitImports_iff.mp hpath)
  exact ⟨hperm.nodup_iff.mpr (hnodup (KeyMap.nodup_keys _) hsub), _, hsub,
    fun path => mem_keys_unitImports_iff, hperm⟩

end Unit

/-- Names that come close to those of the trait, of the enumeration and of an import. -/
def lookalikes : Schema :=
  .ofCollections []
    [{ id := "1", name := "typed", attributes :=
        [{ name := "since", type := .set (.set .dateTime) },
         { name := "maker", type := .reference .unknown }] },
     { id := "2", name := "any typed", attributes := [{ name := "value", type := .unknown }] },
     { id := "3", name := "attribute", attributes := [{ name := "all", type := .nested "none" }] }]

theorem distinct_type_names_lookalikes :
    ∃ u ls, (lookalikes.variantAttributesUnit {}).outcome = .ok u ∧
      (∀ p ∈ lookalikes.productTypes,
        (({} : Configuration).overridesFor .variantAttributes p.identity).bind (·.className) =
          none) ∧
      u.classes.map (·.name) = ["TypedTypedVariantAttributes", "TypedAnyTypedVariantAttributes",
        "TypedAttributeVariantAttributes"] ∧
      unitLines "commercetools" u = .ok ls ∧ (ls.flatMap namesOfLine).Nodup := by
  have h : (lookalikes.variantAttributesUnit {}).outcome = .ok _ := rfl
  obtain ⟨-, -, -, -, hfile⟩ := distinct_type_names h fun _ _ => rfl
  exact ⟨_, _, h, fun _ _ => rfl, rfl, rfl, (hfile _ rfl).1⟩

end SchemaProjection.AttributeTypeNames
