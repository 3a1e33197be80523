import SchemaProjection.Mapping
import SchemaProjection.Proofs.Outcome
import SchemaProjection.Proofs.Schema.FirstMatch

namespace SchemaProjection

/-- What is left without the sets around it. -/
def FieldType.leaf : FieldType → FieldType
  | .set element => element.leaf
  | t => t

def FieldType.depth : FieldType → Nat
  | .set element => element.depth + 1
  | _ => 0

def AttributeType.leaf : AttributeType → AttributeType
  | .set element => element.leaf
  | t => t

def AttributeType.depth : AttributeType → Nat
  | .set element => element.depth + 1
  | _ => 0

def Shape.leaf : Shape → Shape
  | .set _ element => element.leaf
  | s => s

def Shape.depth : Shape → Nat
  | .set _ element => element.depth + 1
  | _ => 0

/-- What is said of the elements of each set, from the outside in. -/
def Shape.nullabilities : Shape → List Bool
  | .set nullable element => nullable :: element.nullabilities
  | _ => []

def OutputType.nullabilities (o : OutputType) : List Bool :=
  o.nullable :: o.shape.nullabilities

variable {s : Schema} {c : Configuration} {required : Bool} {t : AttributeType} {shape : Shape}
  {id : String} {e : GenerationError}

theorem Shape.nullabilities_of_depth_eq_zero (h : shape.depth = 0) : shape.nullabilities = [] := by
  cases shape with
  | set nullable element => cases h
  | _ => rfl

namespace FieldType

theorem nullabilities_shape (t : FieldType) :
    t.shape.nullabilities = List.replicate t.depth true := by
  induction t with
  | set element ih => exact congrArg (true :: ·) ih
  | _ => rfl

theorem nullabilities_output (t : FieldType) :
    t.output.nullabilities = List.replicate (t.depth + 1) true :=
  congrArg (true :: ·) t.nullabilities_shape

theorem leaf_shape_ne_generated (t : FieldType) (n : String) : t.shape.leaf ≠ .generated n := by
  induction t with
  | set element ih => exact ih
  | _ => exact Shape.noConfusion

theorem leaf_shape_ne_attributeList (t : FieldType) : t.shape.leaf ≠ .attributeList := by
  induction t with
  | set element ih => exact ih
  | _ => exact Shape.noConfusion

end FieldType

theorem Schema.nestedShape_eq_ok_iff :
    s.nestedShape c id = .ok shape ↔
      (∃ p n, s.productType? id = some p ∧
        c.className .variantAttributes p.identity = .ok n ∧ shape = .generated n) ∨
      (s.productType? id = none ∧ shape = .attributeList) := by
  rw [nestedShape]
  cases s.productType? id with
  | none => simp [eq_comm]
  | some p =>
    simp only [Outcome.map_eq_ok_iff, Option.some.injEq, reduceCtorEq, false_and, or_false,
      exists_and_left, exists_eq_left']
    exact exists_congr fun n => and_congr_right fun _ => eq_comm

theorem Schema.nestedShape_eq_error_iff :
    s.nestedShape c id = .error e ↔
      ∃ p, s.productType? id = some p ∧
        c.className .variantAttributes p.identity = .error e := by
  rw [nestedShape]
  cases s.productType? id with
  | none => simp
  | some p => simp [Outcome.map_eq_error_iff]

namespace AttributeType

theorem leaf_ne_set (t element : AttributeType) : t.leaf ≠ .set element := by
  induction t with
  | set _ ih => exact ih
  | _ => simp [leaf]

theorem leaf_of_nestedShape (h : s.nestedShape c id = .ok shape) :
    shape.leaf = shape ∧ shape.depth = 0 := by
  obtain ⟨_, _, -, -, rfl⟩ | ⟨-, rfl⟩ := Schema.nestedShape_eq_ok_iff.mp h
  · exact ⟨rfl, rfl⟩
  · exact ⟨rfl, rfl⟩

theorem leaf_of_shape (h : t.shape s c required = .ok shape) :
    t.leaf.shape s c required = .ok shape.leaf ∧ shape.depth = t.depth := by
  induction t generalizing shape with
  | set element ih =>
    obtain ⟨inner, hi, rfl⟩ := Outcome.map_eq_ok_iff.mp h
    obtain ⟨hl, hd⟩ := ih hi
    exact ⟨hl, congrArg (· + 1) hd⟩
  | nested id =>
    obtain ⟨hl, hd⟩ := leaf_of_nestedShape h
    rw [hl]
    exact ⟨h, hd⟩
  | _ =>
    cases h
    exact ⟨rfl, rfl⟩

theorem nested_of_generated {n : String} (h : t.shape s c required = .ok shape)
    (hn : shape.leaf = .generated n) : ∃ id, t.leaf = .nested id := by
  have hl := (leaf_of_shape h).1
  rw [hn] at hl
  cases ht : t.leaf with
  | nested id => exact ⟨id, rfl⟩
  | set element => exact absurd ht (leaf_ne_set t element)
  | _ => simp [ht, AttributeType.shape] at hl

theorem nestedShape_of_shape (h : t.shape s c required = .ok shape) (ht : t.leaf = .nested id) :
    s.nestedShape c id = .ok shape.leaf := by
  have hl := (leaf_of_shape h).1
  rwa [ht] at hl

/-- A type is refused for the class name of the product type that it refers to, and for nothing
else. -/
theorem shape_eq_error_iff :
    t.shape s c required = .error e ↔
      ∃ id p, t.leaf = .nested id ∧ s.productType? id = some p ∧
        c.className .variantAttributes p.identity = .error e := by
  induction t with
  | set element ih => rw [shape, Outcome.map_eq_error_iff, ih, leaf]
  | nested id =>
    rw [shape, Schema.nestedShape_eq_error_iff]
    simp [leaf]
  | _ => simp [shape, leaf]

theorem exists_shape_iff :
    (∃ shape, t.shape s c required = .ok shape) ↔
      ∀ id p, t.leaf = .nested id → s.productType? id = some p →
        ∃ n, c.className .variantAttributes p.identity = .ok n := by
  simp only [Outcome.exists_eq_ok_iff, ne_eq, shape_eq_error_iff, not_exists, not_and]
  constructor
  · intro h id p ht hp e
    exact h e id p ht hp
  · intro h e id p ht hp
    exact h id p ht hp e

/-- All that a type asks for is the shape of what it refers to. -/
theorem shape_congr_nested {s' : Schema} {c' : Configuration}
    (h : ∀ id, t.leaf = .nested id → s.nestedShape c id = s'.nestedShape c' id) :
    t.shape s c required = t.shape s' c' required := by
  induction t with
  | set element ih => rw [shape, shape, ih h]
  | nested id => exact h id rfl
  | _ => rfl

theorem shape_congr {s' : Schema}
    (h : ∀ id, t.leaf = .nested id → s.productType? id = s'.productType? id) :
    t.shape s c required = t.shape s' c required := by
  apply shape_congr_nested
  intro id ht
  rw [Schema.nestedShape, Schema.nestedShape, h id ht]

theorem output_eq_error_iff :
    t.output s c required = .error e ↔
      ∃ id p, t.leaf = .nested id ∧ s.productType? id = some p ∧
        c.className .variantAttributes p.identity = .error e := by
  rw [output, Outcome.map_eq_error_iff, shape_eq_error_iff]

theorem output_eq_ok_iff {o : OutputType} :
    t.output s c required = .ok o ↔
      t.shape s c required = .ok o.shape ∧ o.nullable = !required := by
  rw [output]
  rw [Outcome.map_eq_ok_iff]
  constructor
  · rintro ⟨shape, h, rfl⟩
    exact ⟨h, rfl⟩
  · rintro ⟨h, hn⟩
    exact ⟨o.shape, h, by rw [← hn]⟩

end AttributeType

end SchemaProjection
