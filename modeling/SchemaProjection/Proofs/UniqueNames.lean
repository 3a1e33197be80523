import SchemaProjection.Proofs.Generation
import SchemaProjection.Proofs.Schema.Validation
import SchemaProjection.Proofs.Source.Classes
import SchemaProjection.Proofs.Text.Literal

namespace SchemaProjection.UniqueNames

open Source

variable {s : Schema} {c : Configuration} {u : OutputUnit} {cls : OutputClass} {id : String}
  {as : List AttributesClass} {files : List GeneratedFile} {text : String}

/-- No two fields of the class share any of their names. -/
structure DistinctMembers (cls : OutputClass) : Prop where
  raws : (cls.fields.map (·.raw)).Nodup
  names : (cls.fields.map (·.name)).Nodup
  identifiers : (cls.fields.map fun f => Identifier.ofName f.name).Nodup
  constants : (cls.constants.map (·.name)).Nodup

def projectionOf (domain : Domain) (key : String) : Projection :=
  match domain with
  | .customFields => .customFields key
  | .variantAttributes => .variantAttributes key

structure DistinctUnit (u : OutputUnit) : Prop where
  keys : ∃ keys : List String, u.classes.map (·.projection) = keys.map (projectionOf u.domain) ∧
    keys.Nodup ∧ "" ∉ keys
  classNames : (u.classes.map (·.name)).Nodup
  members : ∀ cls ∈ u.classes, DistinctMembers cls.typedFields

def armMatches (id arm : String) : Bool :=
  (Text.readLiteral arm.toList).map (·.1) == some id

/-- The arm of each class is the first one that its id matches. -/
def ArmsSelect (as : List AttributesClass) : Prop :=
  ∀ (k : Nat) a, as[k]? = some a →
    (as.map fromAttributesArm).findIdx? (armMatches a.productTypeId) = some k

theorem armMatches_fromAttributesArm (a : AttributesClass) :
    armMatches id (fromAttributesArm a) = (a.productTypeId == id) := by
  rw [armMatches, fromAttributesArm, String.toList_append, String.toList_append,
    String.toList_append, List.append_assoc, List.append_assoc, Text.readLiteral_literal]
  rfl

theorem armsSelect_of_nodup (h : (as.map (·.productTypeId)).Nodup) : ArmsSelect as := by
  intro k a ha
  obtain ⟨hk, rfl⟩ := List.getElem?_eq_some_iff.mp ha
  rw [List.findIdx?_map, List.findIdx?_eq_some_iff_getElem]
  simp only [Function.comp_apply, armMatches_fromAttributesArm]
  refine ⟨hk, beq_self_eq_true _, fun j hj => ?_⟩
  rw [List.Nodup, List.pairwise_map, List.pairwise_iff_getElem] at h
  simpa using h j k (by omega) hk hj

theorem distinctMembers_of_customFields {t : CustomFieldType} (hn : t.outline.WellNamed)
    (h : t.synthesize c = .ok cls) (hi : identifierClash cls.typedFields = none) :
    DistinctMembers cls.typedFields := by
  rw [identifierClash_eq_none_iff] at hi
  obtain ⟨name, fields, -, hfields, hnames, rfl⟩ := CustomFieldType.synthesize_eq_ok_iff.mp h
  have hraws : t.fields.map (·.name) = fields.map (·.raw) :=
    Outcome.map_eq_map_of_forall₂ hfields fun d f hf =>
      (CustomFieldType.outputField_eq_ok_iff.mp hf).2.2.symm
  exact ⟨hraws ▸ hn.nodup, hnames, hi, List.nodup_nil⟩

theorem distinctMembers_of_variantAttributes {p : ProductType} (hn : p.outline.WellNamed)
    (h : p.synthesize s c = .ok cls) (hi : identifierClash cls = none) :
    DistinctMembers cls.typedFields := by
  rw [identifierClash_eq_none_iff] at hi
  obtain ⟨name, members, -, hmembers, hnames, hconstants, rfl⟩ :=
    ProductType.synthesize_eq_ok_iff.mp h
  have hraws : p.attributes.map (·.name) = members.map (·.1.raw) :=
    Outcome.map_eq_map_of_forall₂ hmembers fun d m hm =>
      (ProductType.outputField_eq_ok_iff.mp hm).2.2.2.1.symm
  constructor
  · change ((members.map (·.1)).map (·.raw)).Nodup
    rw [List.map_map]
    exact hraws ▸ hn.nodup
  · change ((members.map (·.1)).map (·.name)).Nodup
    rwa [List.map_map]
  · exact hi
  · change ((members.map (·.2)).map (·.name)).Nodup
    rwa [List.map_map]

theorem distinctUnit_of_customFields (hv : s.validate = .ok ())
    (h : (s.customFieldsUnit c).outcome = .ok u) (hr : render c u = .ok text) :
    DistinctUnit u := by
  obtain ⟨⟨hnamed, -, hkeys⟩, -⟩ := Schema.validate_eq_ok_iff.mp hv
  obtain ⟨-, hclasses, hnames, hdomain, -⟩ := Schema.customFieldsUnit_eq_ok_iff.mp h
  obtain ⟨ks, hks, -⟩ := (render_eq_ok_iff_carrierClasses hdomain).mp hr
  refine ⟨⟨s.types.map (·.key), ?_, hkeys, ?_⟩, hnames, fun cls hcls => ?_⟩
  · rw [List.map_map, hdomain]
    refine (Outcome.map_eq_map_of_forall₂ hclasses fun t cls ht => ?_).symm
    obtain ⟨name, fields, -, -, -, rfl⟩ := CustomFieldType.synthesize_eq_ok_iff.mp ht
    rfl
  · intro hempty
    obtain ⟨t, ht, he⟩ := List.mem_map.mp hempty
    exact (hnamed t ht).key he
  · obtain ⟨t, ht, hsynth⟩ := Outcome.exists_of_mem_forall₂ hclasses hcls
    obtain ⟨k, -, hk⟩ := Outcome.exists_of_mem_forall₂ (carrierClasses_eq_ok_iff.mp hks).1.flip hcls
    exact distinctMembers_of_customFields (hnamed t ht) hsynth hk.fields

theorem distinctUnit_of_variantAttributes (hv : s.validate = .ok ())
    (h : (s.variantAttributesUnit c).outcome = .ok u) (hr : render c u = .ok text) :
    DistinctUnit u ∧ ∃ as, attributesClasses u.classes = .ok as ∧
      text = fileText u (variantAttributesLines c.sdkCrate as) ∧ ArmsSelect as := by
  obtain ⟨-, hnamed, hids⟩ := Schema.validate_eq_ok_iff.mp hv
  obtain ⟨-, hclasses, hnames, hdomain, -⟩ := Schema.variantAttributesUnit_eq_ok_iff.mp h
  obtain ⟨as, has, rfl⟩ := (render_eq_ok_iff_attributesClasses hdomain).mp hr
  have hwritten := attributesClasses_eq_ok_iff.mp has
  have hprojections : s.productTypes.map (fun p => Projection.variantAttributes p.id) =
      u.classes.map (·.projection) :=
    Outcome.map_eq_map_of_forall₂ hclasses fun p cls hp =>
      (ProductType.name_and_projection_of_synthesize hp).2.1.symm
  refine ⟨⟨⟨s.productTypes.map (·.id), ?_, hids, ?_⟩, hnames, fun cls hcls => ?_⟩, as, has, rfl, ?_⟩
  · rw [List.map_map, hdomain]
    exact hprojections.symm
  · intro hempty
    obtain ⟨p, hp, he⟩ := List.mem_map.mp hempty
    exact (hnamed p hp).id he
  · obtain ⟨p, hp, hsynth⟩ := Outcome.exists_of_mem_forall₂ hclasses hcls
    obtain ⟨a, -, -, hident, -⟩ := Outcome.exists_of_mem_forall₂ hwritten.flip hcls
    exact distinctMembers_of_variantAttributes (hnamed p hp) hsynth hident
  · apply armsSelect_of_nodup
    have hsame : u.classes.map (·.projection) =
        as.map fun a => Projection.variantAttributes a.productTypeId :=
      Outcome.map_eq_map_of_forall₂ hwritten fun cls a ha => ha.1
    have hinj : Function.Injective Projection.variantAttributes := fun _ _ he =>
      Projection.variantAttributes.inj he
    have hkeys : s.productTypes.map (·.id) = as.map (·.productTypeId) := by
      apply List.map_injective_iff.mpr hinj
      rw [List.map_map, List.map_map]
      exact hprojections.trans hsame
    exact hkeys ▸ hids

/-- What the names in a unit have to be. Each class of variant attributes is also the one that its
product type selects. -/
structure Sound (c : Configuration) (u : OutputUnit) (contents : String) : Prop where
  distinct : DistinctUnit u
  arms : u.domain = .variantAttributes → ∃ as, attributesClasses u.classes = .ok as ∧
    contents = fileText u (variantAttributesLines c.sdkCrate as) ∧ ArmsSelect as

theorem sound_of_unit? (hv : s.validate = .ok ())
    (h : (s.unit? c u.domain).outcome = .ok (some u)) (hr : render c u = .ok text) :
    Sound c u text := by
  cases hd : u.domain with
  | customFields =>
    rw [hd, Schema.unit?_customFields_eq_some_iff] at h
    refine ⟨distinctUnit_of_customFields hv h hr, fun hd' => ?_⟩
    rw [hd] at hd'
    cases hd'
  | variantAttributes =>
    rw [hd, Schema.unit?_variantAttributes_eq_some_iff] at h
    obtain ⟨hdistinct, harms⟩ := distinctUnit_of_variantAttributes hv h hr
    exact ⟨hdistinct, fun _ => harms⟩

/-- Behind the files that are generated from a text are units in which no two classes and no two
members of a class share a key or a name. -/
theorem names_distinct_of_generate (h : (generateFromJson text c).outcome = .ok files) :
    ∃ snapshot, Snapshot.parse text = .ok snapshot ∧ ∃ units,
      List.Forall₂ (fun u f =>
        ((Schema.ofSnapshot snapshot).unit? c u.domain).outcome = .ok (some u) ∧
        f.path = u.filePath ∧ render c u = .ok f.contents ∧ Sound c u f.contents) units files := by
  obtain ⟨snapshot, hparse, hv, hg⟩ := generateFromJson_eq_ok_iff.mp h
  obtain ⟨units, hunits⟩ := Schema.exists_units_of_generate hg
  refine ⟨snapshot, hparse, units, hunits.imp fun u f hu => ?_⟩
  obtain ⟨hunit, hfile⟩ := hu
  obtain ⟨contents, hr, rfl⟩ := Outcome.map_eq_ok_iff.mp hfile
  exact ⟨hunit, rfl, hr, sound_of_unit? hv hunit hr⟩

def catalogue : String :=
  "\x7b\"types\":[\x7b\"id\":\"a\",\"key\":\"k\"\x7d]," ++
  "\"productTypes\":[\x7b\"id\":\"p\",\"name\":\"s\",\"attributes\":" ++
    "[\x7b\"name\":\"type\",\"type\":\x7b\"name\":\"text\"\x7d\x7d]\x7d," ++
  "\x7b\"id\":\"q\",\"name\":\"b\"\x7d]\x7d"

theorem names_distinct_catalogue :
    ∃ files, (generateFromJson catalogue {}).outcome = .ok files ∧ files.length = 2 ∧
      ∃ snapshot, Snapshot.parse catalogue = .ok snapshot ∧ ∃ units,
        List.Forall₂ (fun u f =>
          ((Schema.ofSnapshot snapshot).unit? {} u.domain).outcome = .ok (some u) ∧
          f.path = u.filePath ∧ render {} u = .ok f.contents ∧ Sound {} u f.contents)
          units files := by
  have hlength : (generateFromJson catalogue {}).outcome.map List.length = .ok 2 := by
    decide +kernel
  obtain ⟨files, hfiles, hlen⟩ := Outcome.map_eq_ok_iff.mp hlength
  exact ⟨files, hfiles, hlen, names_distinct_of_generate hfiles⟩

end SchemaProjection.UniqueNames
