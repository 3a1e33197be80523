import Mathlib.Logic.Function.Iterate
import SchemaProjection.Proofs.Mapping

namespace SchemaProjection

/-- What is left of a shape when nothing is said of what may be absent. -/
def Shape.erased : Shape → Shape
  | .set _ element => .set false element.erased
  | s => s

/-- The schema with other attributes for its product types, which may refer to anything. -/
def Schema.withAttributes (s : Schema) (f : ProductType → List (Definition AttributeType)) :
    Schema :=
  .ofCollections s.types (s.productTypes.map fun p => { p with attributes := f p })

variable {s : Schema} {c : Configuration} {required : Bool} {t : AttributeType}
  {o : OutputType}

theorem OutputType.nullabilities_setOf_iterate (o : OutputType) (nullable : Bool) (n : Nat) :
    ((·.setOf nullable)^[n] o).nullabilities = List.replicate n nullable ++ o.nullabilities := by
  induction n with
  | zero => rfl
  | succ n ih =>
    rw [Function.iterate_succ_apply', List.replicate_succ, List.cons_append, ← ih]
    rfl

theorem Schema.productType?_withAttributes (s : Schema)
    (f : ProductType → List (Definition AttributeType)) (id : String) :
    (s.withAttributes f).productType? id =
      (s.productType? id).map fun p => { p with attributes := f p } := by
  rw [productType?_eq_find?, productType?_eq_find?, withAttributes, ofCollections, List.find?_map]
  rfl

theorem Schema.nestedShape_withAttributes (s : Schema)
    (f : ProductType → List (Definition AttributeType)) (c : Configuration) (id : String) :
    (s.withAttributes f).nestedShape c id = s.nestedShape c id := by
  rw [nestedShape, nestedShape, productType?_withAttributes]
  cases s.productType? id <;> rfl

namespace AttributeType

theorem depth_leaf (t : AttributeType) : t.leaf.depth = 0 := by
  induction t with
  | set element ih => exact ih
  | _ => rfl

theorem set_iterate_leaf (t : AttributeType) : set^[t.depth] t.leaf = t := by
  induction t with
  | set element ih => rw [depth, leaf, Function.iterate_succ_apply', ih]
  | _ => rfl

theorem output_set (s : Schema) (c : Configuration) (required : Bool) (t : AttributeType) :
    (set t).output s c required = (t.output s c required).map (·.setOf (!required)) := by
  rw [output, output, shape]
  cases t.shape s c required <;> rfl

theorem output_eq_map_leaf (s : Schema) (c : Configuration) (required : Bool) (t : AttributeType) :
    t.output s c required =
      (t.leaf.output s c required).map (·.setOf (!required))^[t.depth] := by
  induction t with
  | set element ih =>
    rw [output_set, ih, leaf, depth, Function.iterate_succ']
    cases element.leaf.output s c required <;> rfl
  | _ => exact (congrFun Except.map_id _).symm

/-- A set of what the leaf is mapped to, of a set of it and so on, each level as nullable as the
others. -/
theorem output_eq_ok_iff_levels :
    t.output s c required = .ok o ↔
      ∃ kind, t.leaf.output s c required = .ok ⟨kind, !required⟩ ∧ kind.depth = 0 ∧
        o = (·.setOf (!required))^[t.depth] ⟨kind, !required⟩ ∧
        o.nullabilities = List.replicate (t.depth + 1) (!required) := by
  rw [output_eq_map_leaf, Outcome.map_eq_ok_iff]
  constructor
  · rintro ⟨⟨kind, nullable⟩, hleaf, rfl⟩
    obtain ⟨hshape, rfl⟩ := output_eq_ok_iff.mp hleaf
    have hdepth : kind.depth = 0 := (leaf_of_shape hshape).2.trans t.depth_leaf
    refine ⟨kind, hleaf, hdepth, rfl, ?_⟩
    rw [OutputType.nullabilities_setOf_iterate, List.replicate_succ',
      OutputType.nullabilities, Shape.nullabilities_of_depth_eq_zero hdepth]
  · rintro ⟨kind, hleaf, -, rfl, -⟩
    exact ⟨_, hleaf, rfl⟩

theorem map_erased_shape (s : Schema) (c : Configuration) (t : AttributeType) :
    (t.shape s c true).map Shape.erased = (t.shape s c false).map Shape.erased := by
  induction t with
  | set element ih =>
    have hset (nullable : Bool) (x : Except GenerationError Shape) :
        (x.map (.set nullable)).map Shape.erased = (x.map Shape.erased).map (.set false) := by
      cases x <;> rfl
    rw [shape, shape, hset, hset, ih]
  | _ => rfl

theorem shape_withAttributes (s : Schema) (f : ProductType → List (Definition AttributeType))
    (c : Configuration) (required : Bool) (t : AttributeType) :
    t.shape (s.withAttributes f) c required = t.shape s c required :=
  shape_congr_nested fun id _ => s.nestedShape_withAttributes f c id

/-- An attribute type is mapped level by level around its leaf. It is refused only for the class name
of the product type that its leaf refers to, a required attribute differs in the flags alone, and
no attributes of product types are looked at. -/
theorem output_by_levels (s : Schema) (c : Configuration) (t : AttributeType) :
    (t = set^[t.depth] t.leaf ∧ ∀ element, t.leaf ≠ .set element) ∧
    (∀ required e, t.output s c required = .error e ↔
      ∃ id p, t.leaf = .nested id ∧ s.productType? id = some p ∧
        c.className .variantAttributes p.identity = .error e) ∧
    (∀ required o, t.output s c required = .ok o ↔
      ∃ kind, t.leaf.output s c required = .ok ⟨kind, !required⟩ ∧ kind.depth = 0 ∧
        o = (·.setOf (!required))^[t.depth] ⟨kind, !required⟩ ∧
        o.nullabilities = List.replicate (t.depth + 1) (!required)) ∧
    (t.output s c true).map (·.shape.erased) = (t.output s c false).map (·.shape.erased) ∧
    (∀ required, (set t).output s c required =
      (t.output s c required).map (·.setOf (!required))) ∧
    ∀ f required, t.output (s.withAttributes f) c required = t.output s c required := by
  refine ⟨⟨t.set_iterate_leaf.symm, t.leaf_ne_set⟩, fun _ _ => output_eq_error_iff,
    fun _ _ => output_eq_ok_iff_levels, ?_, fun required => output_set s c required t, ?_⟩
  · have houtput (required : Bool) : (t.output s c required).map (·.shape.erased) =
        (t.shape s c required).map Shape.erased := by
      rw [output]
      cases t.shape s c required <;> rfl
    rw [houtput, houtput, map_erased_shape]
  · intro f required
    rw [output, output, shape_withAttributes]

example :
    (set (nested "p")).output
      (.ofCollections []
        [{ id := "p", name := "Bundle", attributes := [{ name := "parts", type := nested "p" }] }])
      {} true = .ok ⟨.set false (.generated "TypedBundleVariantAttributes"), false⟩ := rfl

end AttributeType

end SchemaProjection
