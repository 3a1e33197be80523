import Mathlib.Data.List.Perm.Basic
import SchemaProjection.Proofs.Generation
import SchemaProjection.Proofs.Source.Derives

namespace SchemaProjection.Source

variable {classes classes' : List OutputClass} {as as' : List AttributesClass} {cls : OutputClass}
  {n sdkCrate : String}

theorem reachesMarker_of_perm (h : classes.Perm classes') :
    ReachesMarker classes n ↔ ReachesMarker classes' n := by
  have hrefers : Refers classes = Refers classes' := by
    funext a b
    simp only [Refers, h.mem_iff]
  simp only [ReachesMarker, hrefers, h.mem_iff]

theorem mem_withoutEquality_of_perm (h : classes.Perm classes') :
    n ∈ withoutEquality classes ↔ n ∈ withoutEquality classes' := by
  rw [mem_withoutEquality_iff, mem_withoutEquality_iff, reachesMarker_of_perm h]

theorem exists_attributesClasses_of_perm (h : classes.Perm classes')
    (ha : attributesClasses classes = .ok as) :
    ∃ as', attributesClasses classes' = .ok as' ∧ as.Perm as' := by
  simp only [attributesClasses_eq_mapM, Outcome.mapM_eq_ok_iff] at ha ⊢
  obtain ⟨as', hf, hp⟩ := List.perm_comp_forall₂ h.symm ha
  exact ⟨as', hf, hp.symm⟩

theorem mem_attributesPaths_of_perm (h : as.Perm as') {path : String} :
    path ∈ attributesPaths sdkCrate as ↔ path ∈ attributesPaths sdkCrate as' := by
  simp only [attributesPaths, List.mem_append, List.mem_flatMap, h.mem_iff]

theorem imports_of_perm (sdkCrate : String) (h : classes.Perm classes')
    (ha : attributesClasses classes = .ok as) (ha' : attributesClasses classes' = .ok as') :
    ((variantAttributesLines sdkCrate as).run ∅).2 =
      ((variantAttributesLines sdkCrate as').run ∅).2 := by
  obtain ⟨bs, hbs, hp⟩ := exists_attributesClasses_of_perm h ha
  obtain rfl : as' = bs := Except.ok.inj (ha'.symm.trans hbs)
  rw [writes_variantAttributesLines, writes_variantAttributesLines]
  exact Imports.addAll_congr (fun _ => mem_attributesPaths_of_perm hp) ∅

theorem attributed_of_perm (sdkCrate : String) (h : classes.Perm classes')
    (ha : attributesClasses classes = .ok as) (ha' : attributesClasses classes' = .ok as')
    {i j : Nat} (hi : classes[i]? = some cls) (hj : classes'[j]? = some cls) :
    (attributed ((variantAttributesLines sdkCrate as).run ∅).1)[i]? =
      (attributed ((variantAttributesLines sdkCrate as').run ∅).1)[j]? := by
  rw [getElem?_attributed ha _ _ hi, getElem?_attributed ha' _ _ hj]
  simp only [List.contains_eq_mem, mem_withoutEquality_of_perm h]

end SchemaProjection.Source

namespace SchemaProjection.InputOrder

open Source

variable {s s' : Schema} {c : Configuration} {u u' : OutputUnit}

/-- The two files import the same, and above the struct of each class stands the same derive
line. -/
def SameFrame (c : Configuration) (s s' : Schema) (u u' : OutputUnit) (text text' : String) :
    Prop :=
  ∃ as as' imports lines lines',
    attributesClasses u.classes = .ok as ∧ attributesClasses u'.classes = .ok as' ∧
    (variantAttributesLines c.sdkCrate as).run ∅ = (lines, imports) ∧
    (variantAttributesLines c.sdkCrate as').run ∅ = (lines', imports) ∧
    text = ofLines (headerLines u.domain u.package ++ useLines imports ++ [""] ++ lines) ∧
    text' = ofLines (headerLines u'.domain u'.package ++ useLines imports ++ [""] ++ lines') ∧
    ∀ (i j : Nat) p, s.productTypes[i]? = some p → s'.productTypes[j]? = some p →
      (attributed lines)[i]? = (attributed lines')[j]?

/-- What two orders of the same product types have in common. -/
structure Rearranged (c : Configuration) (s s' : Schema) (u u' : OutputUnit) : Prop where
  places : ∀ i j : Nat, s.productTypes[i]? = s'.productTypes[j]? → u.classes[i]? = u'.classes[j]?
  perm : u.classes.Perm u'.classes
  incomparable : ∀ n, n ∈ withoutEquality u.classes ↔ n ∈ withoutEquality u'.classes
  written : (∃ text, render c u = .ok text) ↔ ∃ text, render c u' = .ok text
  frame : ∀ text text', render c u = .ok text → render c u' = .ok text' →
    SameFrame c s s' u u' text text'

theorem synthesize_of_perm (hn : (s.productTypes.map (·.id)).Nodup)
    (hp : s.productTypes.Perm s'.productTypes) (p : ProductType) :
    p.synthesize s c = p.synthesize s' c :=
  ProductType.synthesize_congr (Schema.productType?_of_perm hn hp)

theorem exists_unit_of_perm (hn : (s.productTypes.map (·.id)).Nodup)
    (hp : s.productTypes.Perm s'.productTypes) (h : (s.variantAttributesUnit c).outcome = .ok u) :
    ∃ u', (s'.variantAttributesUnit c).outcome = .ok u' ∧ u.classes.Perm u'.classes := by
  obtain ⟨hne, hclasses, hnames, -, -⟩ := Schema.variantAttributesUnit_eq_ok_iff.mp h
  simp only [synthesize_of_perm hn hp] at hclasses
  obtain ⟨classes, hforall, hperm⟩ := List.perm_comp_forall₂ hp.symm hclasses
  refine ⟨⟨.variantAttributes, c.packageSegments, classes⟩,
    Schema.variantAttributesUnit_eq_ok_iff.mpr ⟨?_, hforall, ?_, rfl, rfl⟩, hperm.symm⟩
  · intro he
    rw [he, List.perm_nil] at hp
    exact hne hp
  · exact ((hperm.map (·.name)).nodup_iff).mpr hnames

theorem classes_at (hn : (s.productTypes.map (·.id)).Nodup)
    (hp : s.productTypes.Perm s'.productTypes) (h : (s.variantAttributesUnit c).outcome = .ok u)
    (h' : (s'.variantAttributesUnit c).outcome = .ok u') {i j : Nat}
    (hij : s.productTypes[i]? = s'.productTypes[j]?) : u.classes[i]? = u'.classes[j]? := by
  have hclasses := (Schema.variantAttributesUnit_eq_ok_iff.mp h).2.1
  have hclasses' := (Schema.variantAttributesUnit_eq_ok_iff.mp h').2.1
  cases hi : s.productTypes[i]? with
  | some p =>
    obtain ⟨cls, hcls, hsynth⟩ := Outcome.getElem?_of_forall₂ hclasses hi
    obtain ⟨cls', hcls', hsynth'⟩ := Outcome.getElem?_of_forall₂ hclasses' (hij.symm.trans hi)
    rw [synthesize_of_perm hn hp, hsynth'] at hsynth
    rw [hcls, hcls', Except.ok.inj hsynth]
  | none =>
    have hj := hij.symm.trans hi
    rw [List.getElem?_eq_none_iff] at hi hj
    rw [List.getElem?_eq_none (hclasses.length_eq ▸ hi),
      List.getElem?_eq_none (hclasses'.length_eq ▸ hj)]

theorem sameFrame_of_render (hd : u.domain = .variantAttributes)
    (hd' : u'.domain = .variantAttributes)
    (hplaces : ∀ i j : Nat, s.productTypes[i]? = s'.productTypes[j]? →
      u.classes[i]? = u'.classes[j]?)
    (hperm : u.classes.Perm u'.classes) (hlength : s.productTypes.length = u.classes.length)
    {text text' : String} (hr : render c u = .ok text) (hr' : render c u' = .ok text') :
    SameFrame c s s' u u' text text' := by
  obtain ⟨as, has, rfl⟩ := (render_eq_ok_iff_attributesClasses hd).mp hr
  obtain ⟨as', has', rfl⟩ := (render_eq_ok_iff_attributesClasses hd').mp hr'
  have himports := imports_of_perm c.sdkCrate hperm has has'
  have hlines {i j : Nat} {cls : OutputClass} (hi : u.classes[i]? = some cls)
      (hj : u'.classes[j]? = some cls) :=
    attributed_of_perm c.sdkCrate hperm has has' hi hj
  rw [fileText, fileText]
  cases hbody : (variantAttributesLines c.sdkCrate as).run ∅ with | mk lines imports
  cases hbody' : (variantAttributesLines c.sdkCrate as').run ∅ with | mk lines' imports'
  rw [hbody, hbody'] at himports hlines
  obtain rfl : imports = imports' := himports
  refine ⟨as, as', imports, lines, lines', has, has', hbody, hbody', rfl, rfl,
    fun i j p hi hj => ?_⟩
  have hij := hplaces i j (hi.trans hj.symm)
  obtain ⟨hlt, -⟩ := List.getElem?_eq_some_iff.mp hi
  have hcls := List.getElem?_eq_getElem (l := u.classes) (hlength ▸ hlt)
  exact hlines hcls (hij.symm.trans hcls)

theorem rearranged_of_perm (hn : (s.productTypes.map (·.id)).Nodup)
    (hp : s.productTypes.Perm s'.productTypes) (h : (s.variantAttributesUnit c).outcome = .ok u)
    (h' : (s'.variantAttributesUnit c).outcome = .ok u') : Rearranged c s s' u u' := by
  obtain ⟨-, hclasses, -, hd, -⟩ := Schema.variantAttributesUnit_eq_ok_iff.mp h
  obtain ⟨-, -, -, hd', -⟩ := Schema.variantAttributesUnit_eq_ok_iff.mp h'
  have hperm : u.classes.Perm u'.classes := by
    obtain ⟨v, hv, hperm⟩ := exists_unit_of_perm hn hp h
    rwa [Except.ok.inj (h'.symm.trans hv)]
  have hplaces (i j : Nat) := classes_at hn hp h h' (i := i) (j := j)
  refine ⟨hplaces, hperm, fun n => mem_withoutEquality_of_perm hperm, ?_, ?_⟩
  · simp only [render_eq_ok_iff_attributesClasses hd, render_eq_ok_iff_attributesClasses hd']
    constructor
    · rintro ⟨_, as, has, -⟩
      obtain ⟨as', has', -⟩ := exists_attributesClasses_of_perm hperm has
      exact ⟨_, as', has', rfl⟩
    · rintro ⟨_, as', has', -⟩
      obtain ⟨as, has, -⟩ := exists_attributesClasses_of_perm hperm.symm has'
      exact ⟨_, as, has, rfl⟩
  · intro text text' hr hr'
    exact sameFrame_of_render hd hd' hplaces hperm hclasses.length_eq hr hr'

/-- Listing the product types in another order changes no class, and rearranges the classes in the
same way. -/
theorem unit_of_perm (hn : (s.productTypes.map (·.id)).Nodup)
    (hp : s.productTypes.Perm s'.productTypes) (c : Configuration) :
    (∀ p : ProductType, p.synthesize s c = p.synthesize s' c) ∧
    ((∃ u, (s.variantAttributesUnit c).outcome = .ok u) ↔
      ∃ u, (s'.variantAttributesUnit c).outcome = .ok u) ∧
    ∀ u u', (s.variantAttributesUnit c).outcome = .ok u →
      (s'.variantAttributesUnit c).outcome = .ok u' → Rearranged c s s' u u' := by
  have hn' : (s'.productTypes.map (·.id)).Nodup := (hp.map (·.id)).nodup_iff.mp hn
  refine ⟨synthesize_of_perm hn hp, ⟨?_, ?_⟩, fun u u' => rearranged_of_perm hn hp⟩
  · rintro ⟨u, hu⟩
    obtain ⟨u', hu', -⟩ := exists_unit_of_perm hn hp hu
    exact ⟨u', hu'⟩
  · rintro ⟨u', hu'⟩
    obtain ⟨u, hu, -⟩ := exists_unit_of_perm hn' hp.symm hu'
    exact ⟨u, hu⟩

def gifts : Schema :=
  .ofCollections []
    [{ id := "c", name := "Crate", attributes :=
        [{ name := "bundles", type := .set (.nested "b") }, { name := "packed", type := .date }] },
     { id := "b", name := "Bundle", attributes := [{ name := "gift", type := .nested "g" }] },
     { id := "g", name := "Gift" },
     { id := "p", name := "Pallet", attributes := [{ name := "below", type := .nested "p" }] }]

def giftsFirst : Schema :=
  .ofCollections [] gifts.productTypes.reverse

theorem unit_of_perm_gifts :
    ∃ u u' text text', (gifts.variantAttributesUnit {}).outcome = .ok u ∧
      (giftsFirst.variantAttributesUnit {}).outcome = .ok u' ∧
      render {} u = .ok text ∧ render {} u' = .ok text' ∧
      u'.classes.map (·.name) = ["TypedPalletVariantAttributes", "TypedGiftVariantAttributes",
        "TypedBundleVariantAttributes", "TypedCrateVariantAttributes"] ∧
      SameFrame {} gifts giftsFirst u u' text text' := by
  have hn : (gifts.productTypes.map (·.id)).Nodup := by decide
  have hp : gifts.productTypes.Perm giftsFirst.productTypes := (List.reverse_perm _).symm
  obtain ⟨-, -, h⟩ := unit_of_perm hn hp {}
  exact ⟨_, _, _, _, rfl, rfl, rfl, rfl, rfl, (h _ _ rfl rfl).frame _ _ rfl rfl⟩

end SchemaProjection.InputOrder
