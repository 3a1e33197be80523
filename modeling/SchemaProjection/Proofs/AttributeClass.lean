import SchemaProjection.Proofs.Synthesis
import SchemaProjection.Proofs.ValidNames

namespace SchemaProjection.AttributeClass

open Text

variable {s : Schema} {c : Configuration} {p : ProductType} {cls : OutputClass} {n : String}
  {names : List String} {members : List (OutputField × OutputConstant)}

def HasClassName (c : Configuration) (p : ProductType) : Prop :=
  ∃ n, c.className .variantAttributes p.identity = .ok n

/-- Whatever product types the attributes refer to have class names. -/
def TargetsNamed (s : Schema) (c : Configuration) (p : ProductType) : Prop :=
  ∀ d ∈ p.attributes, ∀ id q, d.type.leaf = .nested id → s.productType? id = some q →
    HasClassName c q

/-- The names that the attributes get, in order. -/
def OutputNames (c : Configuration) (p : ProductType) (names : List String) : Prop :=
  List.Forall₂ (fun d n => c.fieldName .variantAttributes p.identity d.name = .ok n) p.attributes
    names

def requiredFlag (c : Configuration) (p : ProductType) (d : Definition AttributeType) : Bool :=
  (((c.overridesFor .variantAttributes p.identity).bind (·.required.get? d.name))).getD d.required

structure IsMember (s : Schema) (c : Configuration) (p : ProductType)
    (d : Definition AttributeType) (m : OutputField × OutputConstant) : Prop where
  raw : m.1.raw = d.name
  value : m.2.value = d.name
  name : c.fieldName .variantAttributes p.identity d.name = .ok m.1.name
  type : d.type.output s c (requiredFlag c p d) = .ok m.1.type
  constant : m.2.name = upperSnakeCase m.1.name

theorem outputField_eq_ok_iff_isMember {d : Definition AttributeType}
    {m : OutputField × OutputConstant} :
    p.outputField s c d = .ok m ↔ IsMember s c p d m := by
  rw [ProductType.outputField_eq_ok_iff, Configuration.constantName_eq_map]
  constructor
  · rintro ⟨hname, htype, hconstant, hraw, hvalue⟩
    rw [hname] at hconstant
    exact ⟨hraw, hvalue, hname, htype, (Except.ok.inj hconstant).symm⟩
  · intro h
    refine ⟨h.name, h.type, ?_, h.raw, h.value⟩
    rw [h.name, h.constant]
    rfl

theorem exists_isMember {d : Definition AttributeType} (hd : d ∈ p.attributes)
    (ht : TargetsNamed s c p) (hn : c.fieldName .variantAttributes p.identity d.name = .ok n) :
    ∃ m, IsMember s c p d m ∧ m.1.name = n := by
  obtain ⟨shape, hs⟩ := AttributeType.exists_shape_iff.mpr (ht d hd)
  have htype : d.type.output s c (requiredFlag c p d) = .ok ⟨shape, !requiredFlag c p d⟩ :=
    AttributeType.output_eq_ok_iff.mpr ⟨hs, rfl⟩
  exact ⟨(⟨n, _, d.name⟩, ⟨upperSnakeCase n, d.name⟩), ⟨rfl, rfl, hn, htype, rfl⟩, rfl⟩

theorem exists_members (ht : TargetsNamed s c p) (hn : OutputNames c p names) :
    ∃ members, List.Forall₂ (IsMember s c p) p.attributes members ∧
      members.map (·.1.name) = names :=
  Outcome.exists_forall₂_map_eq hn fun _ hd _ => exists_isMember hd ht

theorem outputNames_of_members (hm : List.Forall₂ (IsMember s c p) p.attributes members) :
    OutputNames c p (members.map (·.1.name)) := by
  rw [OutputNames, List.forall₂_map_right_iff]
  exact hm.imp fun _ _ h => h.name

theorem targetsNamed_of_members (hm : List.Forall₂ (IsMember s c p) p.attributes members) :
    TargetsNamed s c p := by
  intro d hd
  obtain ⟨m, -, h⟩ := Outcome.exists_of_mem_forall₂ hm.flip hd
  exact AttributeType.exists_shape_iff.mp ⟨_, (AttributeType.output_eq_ok_iff.mp h.type).1⟩

theorem nodup_constants_iff (hm : List.Forall₂ (IsMember s c p) p.attributes members) :
    (members.map (·.2.name)).Nodup ↔ ((members.map (·.1.name)).map snakeCase).Nodup := by
  have hupper : members.map (·.2.name) = members.map fun m => upperSnakeCase m.1.name := by
    apply List.map_congr_left
    intro m hmem
    obtain ⟨d, -, hd⟩ := Outcome.exists_of_mem_forall₂ hm hmem
    exact hd.constant
  rw [hupper, List.map_map, List.Nodup, List.pairwise_map, List.pairwise_map]
  simp only [ne_eq, upperSnakeCase_eq_iff, Function.comp_apply]

def classOf (p : ProductType) (n : String) (members : List (OutputField × OutputConstant)) :
    OutputClass where
  name := n
  fields := members.map (·.1)
  equality := .forFieldCount members.length
  constants := members.map (·.2)
  projection := .variantAttributes p.id
  nested := none

theorem synthesize_eq_checks (hn : c.className .variantAttributes p.identity = .ok n)
    (hm : List.Forall₂ (IsMember s c p) p.attributes members) :
    p.synthesize s c = do
      checkFieldNames n (members.map (·.1))
      checkConstantNames n (members.map (·.2))
      return classOf p n members := by
  have hmapM : p.attributes.mapM (p.outputField s c) = .ok members :=
    Outcome.mapM_eq_ok_iff.mpr (hm.imp fun _ _ => outputField_eq_ok_iff_isMember.mpr)
  rw [ProductType.synthesize, hn, Outcome.ok_bind, hmapM, Outcome.ok_bind, classOf,
    ← List.length_map (·.1)]

theorem synthesize_eq_ok_iff_isMember :
    p.synthesize s c = .ok cls ↔
      ∃ n members, c.className .variantAttributes p.identity = .ok n ∧
        List.Forall₂ (IsMember s c p) p.attributes members ∧
        ((members.map (·.1.name)).map snakeCase).Nodup ∧ cls = classOf p n members := by
  rw [ProductType.synthesize_eq_ok_iff]
  constructor
  · rintro ⟨n, members, hn, hmembers, -, hconstants, rfl⟩
    have hm := hmembers.imp fun _ _ => outputField_eq_ok_iff_isMember.mp
    exact ⟨n, members, hn, hm, (nodup_constants_iff hm).mp hconstants, rfl⟩
  · rintro ⟨n, members, hn, hm, hsnake, rfl⟩
    have hmembers := hm.imp fun _ _ => outputField_eq_ok_iff_isMember.mpr
    exact ⟨n, members, hn, hmembers, hsnake.of_map, (nodup_constants_iff hm).mpr hsnake, rfl⟩

theorem exists_synthesize_eq_ok_iff :
    (∃ cls, p.synthesize s c = .ok cls) ↔
      HasClassName c p ∧ TargetsNamed s c p ∧
        ∃ names, OutputNames c p names ∧ (names.map snakeCase).Nodup := by
  simp only [synthesize_eq_ok_iff_isMember]
  constructor
  · rintro ⟨_, n, members, hn, hm, hsnake, -⟩
    exact ⟨⟨n, hn⟩, targetsNamed_of_members hm, _, outputNames_of_members hm, hsnake⟩
  · rintro ⟨⟨n, hn⟩, ht, names, hnames, hsnake⟩
    obtain ⟨members, hm, rfl⟩ := exists_members ht hnames
    exact ⟨_, n, members, hn, hm, hsnake, rfl⟩

theorem exists_clash_of_not_nodup (hn : c.className .variantAttributes p.identity = .ok n)
    (ht : TargetsNamed s c p) (hnames : OutputNames c p names)
    (hsnake : ¬ (names.map snakeCase).Nodup) :
    ∃ clash, p.synthesize s c =
      .error (if names.Nodup then .duplicateConstant n clash else .duplicateField n clash) := by
  obtain ⟨members, hm, rfl⟩ := exists_members ht hnames
  rw [synthesize_eq_checks hn hm]
  split
  next hnodup =>
    have hfields : checkFieldNames n (members.map (·.1)) = .ok () := by
      apply checkFieldNames_eq_ok_iff.mpr
      rwa [List.map_map]
    have hconstants : ¬ ((members.map (·.2)).map (·.name)).Nodup := by
      rw [List.map_map]
      exact mt (nodup_constants_iff hm).mp hsnake
    obtain ⟨clash, hclash⟩ := exists_checkConstantNames_eq_error hconstants
    exact ⟨clash, by rw [hfields, Outcome.ok_bind, hclash, Outcome.error_bind]⟩
  next hnodup =>
    have hfields : ¬ ((members.map (·.1)).map (·.name)).Nodup := by
      rwa [List.map_map]
    obtain ⟨clash, hclash⟩ := exists_checkFieldNames_eq_error hfields
    exact ⟨clash, by rw [hclash, Outcome.error_bind]⟩

/-- What the class of a product type is. -/
structure IsClassOf (s : Schema) (c : Configuration) (p : ProductType) (cls : OutputClass) :
    Prop where
  name : c.className .variantAttributes p.identity = .ok cls.name
  members : ∃ members, List.Forall₂ (IsMember s c p) p.attributes members ∧
    cls.fields = members.map (·.1) ∧ cls.constants = members.map (·.2)
  equality : cls.equality = .marker ↔ p.attributes = []
  projection : cls.projection = .variantAttributes p.id
  nested : cls.nested = none

theorem isClassOf_of_synthesize (h : p.synthesize s c = .ok cls) : IsClassOf s c p cls := by
  obtain ⟨n, members, hn, hm, -, rfl⟩ := synthesize_eq_ok_iff_isMember.mp h
  refine ⟨hn, ⟨members, hm, rfl, rfl⟩, ?_, rfl, rfl⟩
  rw [← List.length_eq_zero_iff, hm.length_eq, classOf]
  cases members with
  | nil => exact iff_of_true rfl rfl
  | cons m members => exact iff_of_false (by rintro ⟨⟩) (by rintro ⟨⟩)

/-- When a product type has a class, which class it is, and what stands in the way when only names
clash. -/
theorem synthesize_by_names (s : Schema) (c : Configuration) (p : ProductType) :
    ((∃ cls, p.synthesize s c = .ok cls) ↔
      HasClassName c p ∧ TargetsNamed s c p ∧
        ∃ names, OutputNames c p names ∧ (names.map snakeCase).Nodup) ∧
    (∀ cls, p.synthesize s c = .ok cls → IsClassOf s c p cls) ∧
    ∀ n names, c.className .variantAttributes p.identity = .ok n → TargetsNamed s c p →
      OutputNames c p names → ¬ (names.map snakeCase).Nodup →
      ∃ clash, p.synthesize s c =
        .error (if names.Nodup then .duplicateConstant n clash else .duplicateField n clash) :=
  ⟨exists_synthesize_eq_ok_iff, fun _ => isClassOf_of_synthesize,
    fun _ _ => exists_clash_of_not_nodup⟩

def shelf : ProductType where
  id := "h"
  name := "Shelf"
  attributes :=
    [{ name := "boardCount", type := .number }, { name := "board_count", type := .text }]

def sofa : ProductType where
  id := "s"
  key := some "sofa"
  name := "Sofa"
  attributes :=
    [{ name := "seatWidth", type := .number, required := true },
     { name := "cushions", type := .set (.nested "c"), required := true },
     { name := "lining", type := .nested "gone" }]

def furniture : Schema :=
  .ofCollections [] [shelf, sofa, { id := "c", name := "Cushion" }]

def refitted : Configuration :=
  ({} : Configuration).applyAll
    [.attributeRequired "sofa" "seatWidth" false, .attributeName "sofa" "lining" "outerCover"]

theorem synthesize_by_names_furniture :
    (∃ cls, sofa.synthesize furniture refitted = .ok cls ∧
      IsClassOf furniture refitted sofa cls ∧
      cls.fields.map (·.type) =
        [⟨.primitive .double, true⟩,
         ⟨.set false (.generated "TypedCushionVariantAttributes"), false⟩,
         ⟨.attributeList, true⟩] ∧
      cls.constants = [⟨"SEAT_WIDTH", "seatWidth"⟩, ⟨"CUSHIONS", "cushions"⟩,
        ⟨"OUTER_COVER", "lining"⟩]) ∧
    ∃ clash, shelf.synthesize furniture refitted =
      .error (.duplicateConstant "TypedShelfVariantAttributes" clash) := by
  obtain ⟨-, hclass, -⟩ := synthesize_by_names furniture refitted sofa
  obtain ⟨-, -, hclash⟩ := synthesize_by_names furniture refitted shelf
  have hsofa : sofa.synthesize furniture refitted = .ok _ := rfl
  refine ⟨⟨_, hsofa, hclass _ hsofa, rfl, rfl⟩, ?_⟩
  have htargets : TargetsNamed furniture refitted shelf := by
    intro d hd id q ht
    obtain rfl | hd := List.mem_cons.mp hd
    · cases ht
    · rw [List.mem_singleton.mp hd] at ht
      cases ht
  have hnames : OutputNames refitted shelf ["boardCount", "board_count"] :=
    .cons rfl (.cons rfl .nil)
  have hsnake : ¬ (["boardCount", "board_count"].map snakeCase).Nodup := by decide
  exact hclash _ _ rfl htargets hnames hsnake

end SchemaProjection.AttributeClass
