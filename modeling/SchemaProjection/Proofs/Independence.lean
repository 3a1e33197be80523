import SchemaProjection.Proofs.Assembly

namespace SchemaProjection.Independence

variable {s s' : Schema} {c c' : Configuration} {d : Domain} {t t' : CustomFieldType}
  {p p' : ProductType}

/-- The overrides without the flags. -/
def naming (o : Overrides) : Option String × KeyMap String :=
  (o.className, o.fields)

/-- The configurations name the entities of the domain alike. -/
def SameNaming (d : Domain) (c c' : Configuration) : Prop :=
  ∀ k, ((c.overridesIn d).get? k).map naming = ((c'.overridesIn d).get? k).map naming

def SameField (f f' : Definition FieldType) : Prop :=
  f.name = f'.name ∧ f.type = f'.type

def SameAttribute (a a' : Definition AttributeType) : Prop :=
  a.name = a'.name ∧ a.type = a'.type ∧ a.required = a'.required

structure SameType (t t' : CustomFieldType) : Prop where
  id : t.id = t'.id
  key : t.key = t'.key
  fields : List.Forall₂ SameField t.fields t'.fields

structure SameProductType (p p' : ProductType) : Prop where
  id : p.id = p'.id
  key : p.key = p'.key
  name : p.name = p'.name
  attributes : List.Forall₂ SameAttribute p.attributes p'.attributes

structure SameCustomFields (s s' : Schema) (c c' : Configuration) : Prop where
  types : List.Forall₂ SameType s.types s'.types
  naming : SameNaming .customFields c c'
  package : c.packageName = c'.packageName

structure SameVariantAttributes (s s' : Schema) (c c' : Configuration) : Prop where
  productTypes : List.Forall₂ SameProductType s.productTypes s'.productTypes
  overrides : c.productTypes = c'.productTypes
  package : c.packageName = c'.packageName

section Naming

theorem map_overridesFor (h : SameNaming d c c') (e : Identity) :
    (c.overridesFor d e).map naming = (c'.overridesFor d e).map naming := by
  rw [Configuration.overridesFor, Configuration.overridesFor, Option.map_or, Option.map_or,
    h e.key, h e.id]

theorem bind_overridesFor {α : Type} (h : SameNaming d c c') (e : Identity)
    (f : Option String × KeyMap String → Option α) :
    ((c.overridesFor d e).bind fun o => f (naming o)) =
      (c'.overridesFor d e).bind fun o => f (naming o) := by
  have hmap := congrArg (Option.bind · f) (map_overridesFor h e)
  rwa [Option.bind_map, Option.bind_map] at hmap

theorem className_congr (h : SameNaming d c c') (e : Identity) :
    c.className d e = c'.className d e := by
  have hname : (c.overridesFor d e).bind (·.className) =
      (c'.overridesFor d e).bind (·.className) := bind_overridesFor h e (·.1)
  rw [Configuration.className, Configuration.className, hname]

theorem fieldName_congr (h : SameNaming d c c') (e : Identity) (raw : String) :
    c.fieldName d e raw = c'.fieldName d e raw := by
  have hname : (c.overridesFor d e).bind (·.fields.get? raw) =
      (c'.overridesFor d e).bind (·.fields.get? raw) := bind_overridesFor h e (·.2.get? raw)
  rw [Configuration.fieldName, Configuration.fieldName, hname]

theorem constantName_congr (h : SameNaming d c c') (e : Identity) (raw : String) :
    c.constantName d e raw = c'.constantName d e raw := by
  rw [Configuration.constantName, Configuration.constantName, fieldName_congr h]

theorem isRequired_congr (h : c.productTypes = c'.productTypes) (e : Identity) (raw : String)
    (flag : Bool) : c.isRequired e raw flag = c'.isRequired e raw flag := by
  rw [Configuration.isRequired, Configuration.isRequired, Configuration.overridesFor,
    Configuration.overridesFor, Configuration.overridesIn, Configuration.overridesIn, h]

theorem SameVariantAttributes.naming (h : SameVariantAttributes s s' c c') :
    SameNaming .variantAttributes c c' := by
  intro k
  rw [Configuration.overridesIn, Configuration.overridesIn, h.overrides]

end Naming

theorem assemble_congr {ε : Type} {R : ε → ε → Prop} {key : ε → String}
    {synthesize synthesize' : ε → Run OutputClass} {xs ys : List ε} (h : List.Forall₂ R xs ys)
    (hkey : ∀ x y, R x y → key x = key y)
    (hsynthesize : ∀ x y, R x y → synthesize x = synthesize' y)
    (hpackage : c.packageName = c'.packageName) :
    assemble c d key synthesize xs = assemble c' d key synthesize' ys := by
  have hpairs : xs.map (fun x => (key x, synthesize x)) =
      ys.map fun y => (key y, synthesize' y) :=
    Outcome.map_eq_map_of_forall₂ h fun x y hxy =>
      congrArg₂ Prod.mk (hkey x y hxy) (hsynthesize x y hxy)
  have hempty : xs.isEmpty = ys.isEmpty := by
    cases h <;> rfl
  rw [assemble, assemble, hempty, assembleClasses_congr hpairs, Configuration.packageSegments,
    Configuration.packageSegments, hpackage]

section CustomFields

theorem SameType.identity (h : SameType t t') : t.identity = t'.identity := by
  rw [CustomFieldType.identity, CustomFieldType.identity, h.id, h.key]

theorem SameType.synthesize (h : SameType t t') (hc : SameNaming .customFields c c') :
    t.synthesize c = t'.synthesize c' := by
  have hfield (f f' : Definition FieldType) (hf : SameField f f') :
      t.outputField c f = t'.outputField c' f' := by
    rw [CustomFieldType.outputField, CustomFieldType.outputField, h.identity, fieldName_congr hc,
      hf.1, hf.2]
  rw [CustomFieldType.synthesize, CustomFieldType.synthesize, h.identity, className_congr hc, h.key,
    Outcome.mapM_eq_mapM_of_forall₂ h.fields hfield]

/-- Product types are not asked for, and neither is whether a field is required. -/
theorem customFieldsUnit_congr (h : SameCustomFields s s' c c') :
    s.customFieldsUnit c = s'.customFieldsUnit c' := by
  have hrun (t t' : CustomFieldType) (ht : SameType t t') : t.run c = t'.run c' := by
    rw [CustomFieldType.run, CustomFieldType.run, ht.synthesize h.naming, ht.key]
  have hkey (t t' : CustomFieldType) (ht : SameType t t') : t.identity.key = t'.identity.key := by
    rw [ht.identity]
  rw [Schema.customFieldsUnit, Schema.customFieldsUnit, assembleCustomFields, assembleCustomFields,
    assemble_congr h.types hkey hrun h.package]

end CustomFields

section VariantAttributes

theorem SameProductType.identity (h : SameProductType p p') : p.identity = p'.identity := by
  rw [ProductType.identity, ProductType.identity, h.id, h.key, h.name]

theorem SameVariantAttributes.productType? (h : SameVariantAttributes s s' c c') (id : String) :
    (s.productType? id).map (·.identity) = (s'.productType? id).map (·.identity) := by
  have hidentities : s.productTypes.map (·.identity) = s'.productTypes.map (·.identity) :=
    Outcome.map_eq_map_of_forall₂ h.productTypes fun _ _ hp => hp.identity
  have hfind := congrArg (List.find? (·.id == id)) hidentities
  rw [List.find?_map, List.find?_map] at hfind
  rw [Schema.productType?_eq_find?, Schema.productType?_eq_find?]
  exact hfind

theorem nestedShape_eq_elim (s : Schema) (c : Configuration) (id : String) :
    s.nestedShape c id = ((s.productType? id).map (·.identity)).elim (.ok .attributeList)
      fun e => (c.className .variantAttributes e).map .generated := by
  rw [Schema.nestedShape]
  cases s.productType? id <;> rfl

theorem SameVariantAttributes.nestedShape (h : SameVariantAttributes s s' c c') (id : String) :
    s.nestedShape c id = s'.nestedShape c' id := by
  have hname : c.className .variantAttributes = c'.className .variantAttributes :=
    funext (className_congr h.naming)
  rw [nestedShape_eq_elim, nestedShape_eq_elim, h.productType?, hname]

theorem SameProductType.synthesize (h : SameProductType p p')
    (hs : SameVariantAttributes s s' c c') : p.synthesize s c = p'.synthesize s' c' := by
  have hattribute (a a' : Definition AttributeType) (ha : SameAttribute a a') :
      p.outputField s c a = p'.outputField s' c' a' := by
    obtain ⟨hname, htype, hrequired⟩ := ha
    rw [ProductType.outputField, ProductType.outputField, AttributeType.output,
      AttributeType.output, AttributeType.shape_congr_nested fun id _ => hs.nestedShape id,
      isRequired_congr hs.overrides, fieldName_congr hs.naming, constantName_congr hs.naming,
      h.identity, hname, htype, hrequired]
  rw [ProductType.synthesize, ProductType.synthesize, h.identity, className_congr hs.naming, h.id,
    Outcome.mapM_eq_mapM_of_forall₂ h.attributes hattribute]

theorem variantAttributesUnit_congr (h : SameVariantAttributes s s' c c') :
    s.variantAttributesUnit c = s'.variantAttributesUnit c' := by
  have hrun (p p' : ProductType) (hp : SameProductType p p') : p.run s c = p'.run s' c' := by
    rw [ProductType.run, ProductType.run, hp.synthesize h, hp.id]
  have hkey (p p' : ProductType) (hp : SameProductType p p') :
      p.identity.key = p'.identity.key := by
    rw [hp.identity]
  rw [Schema.variantAttributesUnit, Schema.variantAttributesUnit, assembleVariantAttributes,
    assembleVariantAttributes, assemble_congr h.productTypes hkey hrun h.package]

end VariantAttributes

/-- Runs that agree on what a domain uses have the same unit or the same error, and log the same
events on the way. -/
theorem units_independent (s s' : Schema) (c c' : Configuration) :
    (SameCustomFields s s' c c' → s.customFieldsUnit c = s'.customFieldsUnit c') ∧
    (SameVariantAttributes s s' c c' → s.variantAttributesUnit c = s'.variantAttributesUnit c') :=
  ⟨customFieldsUnit_congr, variantAttributesUnit_congr⟩

def bare : Schema :=
  .ofCollections
    [{ id := "t", key := "color", fields := [{ name := "shade", type := .string }] }]
    []

def labelled : Schema :=
  .ofCollections
    [{ id := "t", key := "color", name := .ofList [("en", "Color")], resourceTypeIds := ["order"],
       fields := [{ name := "shade", type := .string, required := true,
                    label := .ofList [("en", "Shade")] }] }]
    [{ id := "p", name := "Hat", description := "Worn on the head.", attributes :=
        [{ name := "band", type := .set (.nested "q"), label := .ofList [("en", "Band")] }] },
     { id := "q", name := "Band" }]

def stocked : Schema :=
  .ofCollections [{ id := "u", key := "?" }]
    [{ id := "p", name := "Hat", attributes := [{ name := "band", type := .set (.nested "q") }] },
     { id := "q", name := "Band" }]

def painted : Configuration where
  customTypes := .ofList [("color", { className := some "Paint" })]

def flagged : Configuration where
  sdkCrate := "sdk"
  customTypes := .ofList
    [("color", { className := some "Paint", required := .ofList [("shade", true)] })]
  productTypes := .ofList [("p", { className := some "Headgear" })]

def unpainted : Configuration where
  productTypes := .ofList [("p", { className := some "Headgear" })]

theorem units_independent_labelled :
    SameCustomFields bare labelled painted flagged ∧
    bare.customFieldsUnit painted = labelled.customFieldsUnit flagged ∧
    (∃ u, (bare.customFieldsUnit painted).outcome = .ok u) ∧
    SameVariantAttributes labelled stocked flagged unpainted ∧
    labelled.variantAttributesUnit flagged = stocked.variantAttributesUnit unpainted ∧
    ∃ u, (labelled.variantAttributesUnit flagged).outcome = .ok u := by
  have hnaming : SameNaming .customFields painted flagged := by
    intro k
    by_cases hk : k = "color"
    · subst hk
      rfl
    · have hlookup (o : Overrides) : (KeyMap.ofList [("color", o)]).get? k = none :=
        KeyMap.get?_insert_of_ne _ o hk
      rw [Configuration.overridesIn, Configuration.overridesIn, painted, flagged, hlookup, hlookup]
  have hfields : SameCustomFields bare labelled painted flagged :=
    ⟨.cons ⟨rfl, rfl, .cons ⟨rfl, rfl⟩ .nil⟩ .nil, hnaming, rfl⟩
  have hattributes : SameVariantAttributes labelled stocked flagged unpainted :=
    ⟨.cons ⟨rfl, rfl, rfl, .cons ⟨rfl, rfl, rfl⟩ .nil⟩ (.cons ⟨rfl, rfl, rfl, .nil⟩ .nil),
      rfl, rfl⟩
  exact ⟨hfields, (units_independent bare labelled painted flagged).1 hfields, ⟨_, rfl⟩,
    hattributes, (units_independent labelled stocked flagged unpainted).2 hattributes, _, rfl⟩

end SchemaProjection.Independence
