import SchemaProjection.Proofs.Source.Classes
import SchemaProjection.Proofs.Source.Comparability
import SchemaProjection.Proofs.Source.Imports
import SchemaProjection.Proofs.Source.Lines

namespace SchemaProjection.Source

variable {xs ys body : List String} {line head : String} {classes : List OutputClass}
  {as : List AttributesClass}

def isAttribute (line : String) : Bool :=
  line.front? == some '#'

/-- The attributes in a text, each with the line below it. -/
def attributed : List String → List (String × String)
  | line :: below :: lines =>
    if isAttribute line then (line, below) :: attributed (below :: lines)
    else attributed (below :: lines)
  | _ => []

theorem attributed_cons_of_attribute (h : isAttribute line = true) (below : String)
    (lines : List String) :
    attributed (line :: below :: lines) = (line, below) :: attributed (below :: lines) := by
  simp [attributed, h]

theorem attributed_cons_of_plain (h : isAttribute line = false) (lines : List String) :
    attributed (line :: lines) = attributed lines := by
  cases lines with
  | nil => rfl
  | cons below lines => simp [attributed, h]

theorem attributed_append_of_plain (h : ∀ l ∈ xs, isAttribute l = false) (ys : List String) :
    attributed (xs ++ ys) = attributed ys := by
  induction xs with
  | nil => rfl
  | cons x xs ih =>
    obtain ⟨hx, hxs⟩ := List.forall_mem_cons.mp h
    rw [List.cons_append, attributed_cons_of_plain hx, ih hxs]

theorem attributed_of_plain (h : ∀ l ∈ xs, isAttribute l = false) : attributed xs = [] := by
  rw [← List.append_nil xs, attributed_append_of_plain h]
  rfl

theorem isAttribute_append (a b : String) (h : a ≠ "") :
    isAttribute (a ++ b) = isAttribute a := by
  rw [isAttribute, isAttribute, front?_append _ _ h]

theorem isAttribute_eq_false_of_mem_indented : ∀ l ∈ indented xs, isAttribute l = false :=
  front?_of_mem_indented (p := fun first => (first == some '#') = false) rfl rfl

theorem isAttribute_eq_false_of_mem_block (h : isAttribute head = false) :
    ∀ l ∈ block head body, isAttribute l = false :=
  (front?_block_iff (p := fun first => (first == some '#') = false) rfl rfl rfl).mpr h

def structHead (c : OutputClass) : String :=
  if c.fields.isEmpty then "pub struct " ++ c.name ++ " \x7b\x7d"
  else "pub struct " ++ c.name ++ " \x7b"

theorem front?_structHead (c : OutputClass) : (structHead c).front? = some 'p' := by
  rw [structHead]
  split <;> rw [String.append_assoc, front?_append _ _ (by decide)] <;> rfl

theorem isAttribute_structHead_eq_false (c : OutputClass) : isAttribute (structHead c) = false := by
  rw [isAttribute, front?_structHead]
  rfl

theorem front?_deriveLine (equality : Equality) (comparable : Bool) :
    (deriveLine equality comparable).front? = some '#' := by
  cases equality <;> cases comparable <;> rfl

theorem isAttribute_deriveLine (equality : Equality) (comparable : Bool) :
    isAttribute (deriveLine equality comparable) = true := by
  rw [isAttribute, front?_deriveLine]
  rfl

theorem exists_structLines_eq (c : OutputClass) (comparable : Bool) {p : Option Char → Prop}
    (hnone : p none) (hspace : p (some ' ')) (hclose : p (some '\x7d')) (himpl : p (some 'i')) :
    ∃ tail, structLines c (c.fields.map FieldText.ofField) comparable =
        deriveLine c.equality comparable :: structHead c :: tail ∧ ∀ l ∈ tail, p l.front? := by
  have hblock (body : List String) : ∀ l ∈ block ("impl " ++ c.name) body, p l.front? := by
    rw [front?_block_iff hnone hspace hclose, front?_append _ _ (by decide)]
    exact himpl
  have hbody (body : List String) : ∀ l ∈ indented body, p l.front? :=
    front?_of_mem_indented hnone hspace
  rw [structLines, structHead, List.isEmpty_map]
  split
  · refine ⟨[""] ++ block ("impl " ++ c.name) _ ++ [""], rfl, ?_⟩
    simp only [List.forall_mem_append, List.forall_mem_singleton]
    exact ⟨⟨hnone, hblock _⟩, hnone⟩
  · refine ⟨indented _ ++ ["\x7d"] ++ [""] ++ block ("impl " ++ c.name) _ ++ [""], rfl, ?_⟩
    simp only [List.forall_mem_append, List.forall_mem_singleton]
    exact ⟨⟨⟨⟨hbody _, hclose⟩, hnone⟩, hblock _⟩, hnone⟩

theorem attributed_structLines (c : OutputClass) (comparable : Bool) (lines : List String) :
    attributed (structLines c (c.fields.map FieldText.ofField) comparable ++ lines) =
      (deriveLine c.equality comparable, structHead c) :: attributed lines := by
  obtain ⟨tail, hlines, htail⟩ := exists_structLines_eq c comparable
    (p := fun first => (first == some '#') = false) rfl rfl rfl rfl
  rw [hlines, List.cons_append, List.cons_append,
    attributed_cons_of_attribute (isAttribute_deriveLine _ _),
    attributed_cons_of_plain (isAttribute_structHead_eq_false c), attributed_append_of_plain htail]

theorem attributed_attributesPart (cs : List AttributesClass) (c : AttributesClass)
    (lines : List String) :
    attributed (attributesPart cs c ++ lines) =
      (deriveLine c.struct.equality
        (!(withoutEquality (cs.map (·.struct))).contains c.struct.name), structHead c.struct) ::
        attributed lines := by
  have himpl : isAttribute ("impl TypedVariantAttributes for " ++ c.struct.name) = false := by
    rw [isAttribute_append _ _ (by decide)]
    rfl
  have hdoc : isAttribute ("/// Typed attributes of product type `" ++
      Text.docText c.productTypeId ++ "`.") = false := by
    rw [String.append_assoc, isAttribute_append _ _ (by decide)]
    rfl
  rw [attributesPart, attributesLines]
  simp only [List.append_assoc, List.cons_append, List.nil_append]
  rw [attributed_cons_of_plain hdoc, attributed_structLines,
    attributed_append_of_plain (isAttribute_eq_false_of_mem_block himpl),
    attributed_cons_of_plain rfl]

theorem attributed_parts (cs ds : List AttributesClass) (lines : List String) :
    attributed ((ds.map (attributesPart cs)).flatten ++ lines) =
      ds.map (fun d => (deriveLine d.struct.equality
        (!(withoutEquality (cs.map (·.struct))).contains d.struct.name), structHead d.struct)) ++
        attributed lines := by
  induction ds with
  | nil => rfl
  | cons d ds ih =>
    rw [List.map_cons, List.flatten_cons, List.append_assoc, attributed_attributesPart, ih]
    rfl

def anyItem : String × String :=
  ("#[derive(Debug, Clone)]", "pub enum AnyTypedVariantAttributes \x7b")

theorem attributed_anyAttributes (cs : List AttributesClass) (attributeType : String) :
    attributed (anyAttributesEnum cs ++ anyAttributesImpl attributeType cs) = [anyItem] := by
  have himpl : ∀ l ∈ anyAttributesImpl attributeType cs, isAttribute l = false := by
    rw [anyAttributesImpl]
    exact isAttribute_eq_false_of_mem_block rfl
  rw [anyAttributesEnum, block]
  simp only [List.append_assoc, List.cons_append, List.nil_append]
  rw [attributed_cons_of_plain rfl, attributed_cons_of_attribute rfl, attributed_cons_of_plain rfl,
    attributed_append_of_plain isAttribute_eq_false_of_mem_indented, attributed_cons_of_plain rfl,
    attributed_cons_of_plain rfl, attributed_of_plain himpl]
  rfl

theorem attributed_attributesBody (cs : List AttributesClass) :
    attributed (attributesBody cs) =
      cs.map (fun c => (deriveLine c.struct.equality
        (!(withoutEquality (cs.map (·.struct))).contains c.struct.name), structHead c.struct)) ++
        [anyItem] := by
  have hintro : ∀ l ∈ variantAttributesTrait ++
      fromAttributesFunction SdkType.rawAttribute.name, isAttribute l = false := by
    decide +kernel
  rw [attributesBody, List.append_assoc, List.append_assoc, attributed_append_of_plain hintro,
    attributed_parts, attributed_anyAttributes]

theorem attributed_variantAttributesLines (h : attributesClasses classes = .ok as)
    (sdkCrate : String) (imports : Imports) :
    attributed ((variantAttributesLines sdkCrate as).run imports).1 =
      classes.map (fun c => (deriveLine c.equality
        (!(withoutEquality classes).contains c.name), structHead c)) ++ [anyItem] := by
  have hs := map_struct_of_attributesClasses h
  rw [writes_variantAttributesLines as imports, attributed_attributesBody, hs, ← hs,
    List.map_map]
  rfl

def DerivesEquality (lines : List String) (k : Nat) : Prop :=
  ∃ item, (attributed lines)[k]? = some item ∧ "PartialEq".toList <:+: item.1.toList

theorem infix_deriveLine_iff (equality : Equality) (comparable : Bool) :
    "PartialEq".toList <:+: (deriveLine equality comparable).toList ↔
      equality = .structural ∧ comparable = true := by
  cases equality <;> cases comparable <;> decide +kernel

theorem getElem?_attributed (h : attributesClasses classes = .ok as) (sdkCrate : String)
    (imports : Imports) {k : Nat} {c : OutputClass} (hc : classes[k]? = some c) :
    (attributed ((variantAttributesLines sdkCrate as).run imports).1)[k]? =
      some (deriveLine c.equality (!(withoutEquality classes).contains c.name), structHead c) := by
  obtain ⟨hk, rfl⟩ := List.getElem?_eq_some_iff.mp hc
  rw [attributed_variantAttributesLines h, List.getElem?_append_left (by simpa using hk),
    List.getElem?_map, hc]
  rfl

theorem derivesEquality_iff_notMem (h : attributesClasses classes = .ok as) (sdkCrate : String)
    (imports : Imports) {k : Nat} {c : OutputClass} (hc : classes[k]? = some c) :
    (attributed ((variantAttributesLines sdkCrate as).run imports).1)[k]?.map (·.2) =
        some (structHead c) ∧
      (DerivesEquality ((variantAttributesLines sdkCrate as).run imports).1 k ↔
        c.equality = .structural ∧ c.name ∉ withoutEquality classes) := by
  rw [DerivesEquality, getElem?_attributed h sdkCrate imports hc]
  refine ⟨rfl, ?_⟩
  simp only [Option.some.injEq, exists_eq_left', infix_deriveLine_iff, Bool.not_eq_true',
    List.contains_eq_mem, decide_eq_false_iff_not]

/-- The classes left out of comparison are those that a marker can be reached from, and they are
the least set of which the two reasons hold. In the text a class derives equality exactly when it
has fields and is none of them, and then so do all classes that it mentions. -/
theorem derivesEquality_iff_not_reachesMarker (classes : List OutputClass) :
    IsLeast {S | ClosedUnderMention classes S} {n | n ∈ withoutEquality classes} ∧
    (∀ n, n ∈ withoutEquality classes ↔ ReachesMarker classes n) ∧
    ∀ as, attributesClasses classes = .ok as → ∀ sdkCrate imports lines,
      ((variantAttributesLines sdkCrate as).run imports).1 = lines →
      (∀ (k : Nat) c, classes[k]? = some c →
        (attributed lines)[k]?.map (·.2) = some (structHead c) ∧
        (DerivesEquality lines k ↔ c.equality = .structural ∧ ¬ ReachesMarker classes c.name)) ∧
      ∀ (j k : Nat) c d, classes[j]? = some c → classes[k]? = some d → Mentions c d.name →
        DerivesEquality lines j → DerivesEquality lines k := by
  refine ⟨isLeast_withoutEquality classes, fun n => mem_withoutEquality_iff, ?_⟩
  rintro as h sdkCrate imports lines rfl
  have hclass (k : Nat) (c : OutputClass) (hc : classes[k]? = some c) :=
    derivesEquality_iff_notMem h sdkCrate imports hc
  simp only [mem_withoutEquality_iff] at hclass
  refine ⟨hclass, fun j k c d hc hd hm he => ?_⟩
  obtain ⟨-, hnot⟩ := (hclass j c hc).2.mp he
  have hreach (hr : ReachesMarker classes d.name) : ReachesMarker classes c.name :=
    (closedUnderMention_reachesMarker classes).mention c (List.mem_of_getElem? hc) _ hr hm
  refine (hclass k d hd).2.mpr ⟨?_, mt hreach hnot⟩
  cases hq : d.equality with
  | structural => rfl
  | marker =>
    exact absurd (hreach ((closedUnderMention_reachesMarker classes).marker d
      (List.mem_of_getElem? hd) hq)) hnot

def classOf (name : String) (shapes : List Shape) : OutputClass where
  name
  fields := shapes.mapIdx fun i shape => ⟨"f" ++ toString i, ⟨shape, true⟩, "f" ++ toString i⟩
  equality := .forFieldCount shapes.length
  constants := []
  projection := .variantAttributes name
  nested := none

/-- A marker at the end of a chain that is listed from its far end, and two classes in a cycle. -/
def chained : List OutputClass :=
  [classOf "Crate" [.set true (.generated "Bundle")], classOf "Bundle" [.generated "Gift"],
   classOf "Gift" [], classOf "Left" [.generated "Right"],
   classOf "Right" [.any, .set true (.set true (.generated "Left"))]]

theorem derivesEquality_chained :
    ∃ as, attributesClasses chained = .ok as ∧ ∀ sdkCrate imports lines,
      ((variantAttributesLines sdkCrate as).run imports).1 = lines →
      ¬ DerivesEquality lines 0 ∧ DerivesEquality lines 3 ∧ DerivesEquality lines 4 := by
  obtain ⟨-, hmem, htext⟩ := derivesEquality_iff_not_reachesMarker chained
  have hset : withoutEquality chained = ["Crate", "Bundle", "Gift"] := by
    decide +kernel
  refine ⟨_, rfl, fun sdkCrate imports lines hlines => ?_⟩
  obtain ⟨hclass, hmention⟩ := htext _ rfl sdkCrate imports lines hlines
  have hcrate : ReachesMarker chained "Crate" := by
    rw [← hmem, hset]
    decide
  have hleft : ¬ ReachesMarker chained "Left" := by
    rw [← hmem, hset]
    decide
  have hderives : DerivesEquality lines 3 := (hclass 3 _ rfl).2.mpr ⟨rfl, hleft⟩
  refine ⟨fun h => ((hclass 0 _ rfl).2.mp h).2 hcrate, hderives, ?_⟩
  exact hmention 3 4 _ _ rfl rfl ⟨_, List.mem_cons_self, rfl⟩ hderives

end SchemaProjection.Source
