import SchemaProjection.Proofs.Synthesis

namespace SchemaProjection

variable {s : Schema} {c : Configuration} {required : Bool} {t : AttributeType} {shape : Shape}
  {id x : String} {p : ProductType} {cls : OutputClass}

/-- The schema without the product types that have the id. -/
def Schema.without (s : Schema) (id : String) : Schema :=
  .ofCollections s.types (s.productTypes.filter (·.id != id))

def Shape.withLeaf : Shape → Shape → Shape
  | .set nullable element, leaf => .set nullable (element.withLeaf leaf)
  | _, leaf => leaf

/-- The field of an attribute when no product type has the id any more. -/
def OutputField.withoutTarget (id : String) (d : Definition AttributeType) (f : OutputField) :
    OutputField :=
  if d.type.leaf = .nested id then
    { f with type := { f.type with shape := f.type.shape.withLeaf .attributeList } }
  else f

theorem OutputField.name_withoutTarget (id : String) (d : Definition AttributeType)
    (f : OutputField) : (f.withoutTarget id d).name = f.name := by
  rw [withoutTarget]
  split <;> rfl

namespace Schema

theorem productType?_without_self (s : Schema) (x : String) :
    (s.without x).productType? x = none := by
  rw [productType?_eq_none_iff]
  intro p hp
  simpa using (List.mem_filter.mp hp).2

theorem productType?_without_of_ne (h : id ≠ x) :
    (s.without x).productType? id = s.productType? id := by
  rw [productType?_eq_find?, productType?_eq_find?]
  change (s.productTypes.filter (·.id != x)).find? _ = _
  rw [List.find?_filter]
  congr 1
  funext p
  by_cases hp : p.id = id
  · simp [hp, h]
  · simp [hp]

end Schema

namespace AttributeType

theorem shape_without_of_ne (h : t.leaf ≠ .nested x) :
    t.shape (s.without x) c required = t.shape s c required := by
  apply shape_congr
  intro id ht
  apply Schema.productType?_without_of_ne
  rintro rfl
  exact h ht

theorem shape_without_of_nested (h : t.shape s c required = .ok shape) (ht : t.leaf = .nested x) :
    t.shape (s.without x) c required = .ok (shape.withLeaf .attributeList) := by
  induction t generalizing shape with
  | set element ih =>
    obtain ⟨inner, hi, rfl⟩ := Outcome.map_eq_ok_iff.mp h
    rw [AttributeType.shape, ih hi ht]
    rfl
  | nested id =>
    cases ht
    rw [AttributeType.shape, Schema.nestedShape, Schema.productType?_without_self]
    obtain ⟨_, _, -, -, rfl⟩ | ⟨-, rfl⟩ := Schema.nestedShape_eq_ok_iff.mp h
    · rfl
    · rfl
  | _ => cases ht

end AttributeType

namespace ProductType

def memberWithout (id : String) (d : Definition AttributeType) (m : OutputField × OutputConstant) :
    OutputField × OutputConstant :=
  (m.1.withoutTarget id d, m.2)

theorem outputField_without {d : Definition AttributeType} {m : OutputField × OutputConstant}
    (h : p.outputField s c d = .ok m) :
    p.outputField (s.without x) c d = .ok (memberWithout x d m) := by
  obtain ⟨hname, htype, hconstant, hraw, hvalue⟩ := outputField_eq_ok_iff.mp h
  obtain ⟨hshape, hnullable⟩ := AttributeType.output_eq_ok_iff.mp htype
  rw [outputField_eq_ok_iff, memberWithout, OutputField.withoutTarget]
  split
  next ht =>
    have hs := AttributeType.shape_without_of_nested hshape ht
    exact ⟨hname, AttributeType.output_eq_ok_iff.mpr ⟨hs, hnullable⟩, hconstant, hraw, hvalue⟩
  next ht =>
    have hs := (AttributeType.shape_without_of_ne ht).trans hshape
    exact ⟨hname, AttributeType.output_eq_ok_iff.mpr ⟨hs, hnullable⟩, hconstant, hraw, hvalue⟩

/-- A class outlives the product types that its fields refer to. -/
theorem synthesize_without (x : String) (h : p.synthesize s c = .ok cls) :
    cls.fields.length = p.attributes.length ∧
      p.synthesize (s.without x) c =
        .ok { cls with
          fields := List.zipWith (OutputField.withoutTarget x) p.attributes cls.fields } := by
  obtain ⟨name, members, hn, hm, hfields, hconstants, rfl⟩ := synthesize_eq_ok_iff.mp h
  have hlength : members.length = p.attributes.length := hm.length_eq.symm
  have hnames : (List.zipWith (memberWithout x) p.attributes members).map (·.1.name) =
      members.map (·.1.name) :=
    Outcome.map_zipWith_of_forall₂ hm fun d m => OutputField.name_withoutTarget x d m.1
  have hsame : (List.zipWith (memberWithout x) p.attributes members).map (·.2) =
      members.map (·.2) :=
    Outcome.map_zipWith_of_forall₂ hm fun _ _ => rfl
  refine ⟨(List.length_map _).trans hlength, synthesize_eq_ok_iff.mpr
    ⟨name, List.zipWith (memberWithout x) p.attributes members, hn,
      Outcome.forall₂_zipWith hm fun d m => outputField_without, ?_, ?_, ?_⟩⟩
  · rwa [hnames]
  · have hconstantNames := congrArg (List.map (·.name)) hsame
    rw [List.map_map, List.map_map] at hconstantNames
    exact hconstantNames ▸ hconstants
  · rw [hsame, List.length_zipWith, hlength, Nat.min_self, List.map_zipWith,
      List.zipWith_map_right]
    rfl

def vehicles : Schema :=
  .ofCollections []
    [{ id := "c", name := "Car", attributes :=
        [{ name := "wheels", type := .set (.set (.nested "w")) },
         { name := "spare", type := .nested "w", required := true },
         { name := "towed", type := .nested "c" }] },
     { id := "w", name := "Wheel", attributes := [{ name := "car", type := .nested "c" }] }]

theorem synthesize_without_wheel :
    ∃ car cls reduced, car ∈ vehicles.productTypes ∧ car.synthesize vehicles {} = .ok cls ∧
      cls.fields.map (·.type) =
        [⟨.set true (.set true (.generated "TypedWheelVariantAttributes")), true⟩,
         ⟨.generated "TypedWheelVariantAttributes", false⟩,
         ⟨.generated "TypedCarVariantAttributes", true⟩] ∧
      car.synthesize (vehicles.without "w") {} = .ok reduced ∧
      reduced.fields.map (·.type) =
        [⟨.set true (.set true .attributeList), true⟩, ⟨.attributeList, false⟩,
         ⟨.generated "TypedCarVariantAttributes", true⟩] :=
  ⟨_, _, _, List.mem_cons_self, rfl, rfl, (synthesize_without "w" rfl).2, rfl⟩

end ProductType

end SchemaProjection
