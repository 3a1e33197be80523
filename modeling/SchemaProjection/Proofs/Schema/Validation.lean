import SchemaProjection.Proofs.Clash
import SchemaProjection.Proofs.Outcome
import SchemaProjection.Schema.Validation

namespace SchemaProjection

variable {entity : Identity} {seen names ids keys : List String} {os : List Outline}
  {uniqueKeys : Bool} {s : Schema}

namespace Outline

structure WellNamed (o : Outline) : Prop where
  id : o.identity.id ≠ ""
  key : o.identity.key ≠ ""
  notEmpty : "" ∉ o.fieldNames
  nodup : o.fieldNames.Nodup

theorem checkFields_eq_ok_iff :
    checkFields entity seen names = .ok () ↔ "" ∉ names ∧ Fresh seen names := by
  induction names generalizing seen with
  | nil => exact iff_of_true rfl ⟨List.not_mem_nil, fresh_nil⟩
  | cons name names ih =>
    rw [checkFields, fresh_cons_iff, List.mem_cons, not_or]
    split
    next hempty => simp [hempty]
    next hempty =>
      split
      next hseen =>
        rw [List.contains_iff_mem] at hseen
        simp [hseen]
      next hseen =>
        rw [List.contains_iff_mem] at hseen
        rw [ih]
        constructor
        · rintro ⟨hn, hf⟩
          exact ⟨⟨Ne.symm hempty, hn⟩, hseen, hf⟩
        · rintro ⟨⟨-, hn⟩, -, hf⟩
          exact ⟨hn, hf⟩

theorem check_cons_eq_ok_iff {o : Outline} :
    check uniqueKeys ids keys (o :: os) = .ok () ↔
      o.WellNamed ∧ o.identity.id ∉ ids ∧ (uniqueKeys = true → o.identity.key ∉ keys) ∧
        check uniqueKeys (o.identity.id :: ids) (o.identity.key :: keys) os = .ok () := by
  rw [check]
  simp only [Outcome.throw_if_eq_ok_iff, Outcome.check_bind_eq_ok_iff, checkFields_eq_ok_iff,
    fresh_nil_iff, Bool.and_eq_true, List.contains_iff_mem, not_and]
  constructor
  · rintro ⟨hid, hkey, hids, hkeys, ⟨hempty, hnodup⟩, h⟩
    exact ⟨⟨hid, hkey, hempty, hnodup⟩, hids, hkeys, h⟩
  · rintro ⟨⟨hid, hkey, hempty, hnodup⟩, hids, hkeys, h⟩
    exact ⟨hid, hkey, hids, hkeys, ⟨hempty, hnodup⟩, h⟩

theorem check_eq_ok_iff :
    check uniqueKeys ids keys os = .ok () ↔
      (∀ o ∈ os, o.WellNamed) ∧ Fresh ids (os.map (·.identity.id)) ∧
        (uniqueKeys = true → Fresh keys (os.map (·.identity.key))) := by
  induction os generalizing ids keys with
  | nil => exact iff_of_true rfl ⟨List.forall_mem_nil _, fresh_nil, fun _ => fresh_nil⟩
  | cons o os ih =>
    rw [check_cons_eq_ok_iff, ih, List.forall_mem_cons, List.map_cons, List.map_cons,
      fresh_cons_iff, fresh_cons_iff]
    constructor
    · rintro ⟨ho, hid, hkey, hos, hids, hkeys⟩
      exact ⟨⟨ho, hos⟩, ⟨hid, hids⟩, fun hu => ⟨hkey hu, hkeys hu⟩⟩
    · rintro ⟨⟨ho, hos⟩, ⟨hid, hids⟩, hk⟩
      exact ⟨ho, hid, fun hu => (hk hu).1, hos, hids, fun hu => (hk hu).2⟩

end Outline

theorem Schema.validate_eq_ok_iff :
    s.validate = .ok () ↔
      ((∀ t ∈ s.types, t.outline.WellNamed) ∧ (s.types.map (·.id)).Nodup ∧
        (s.types.map (·.key)).Nodup) ∧
      (∀ p ∈ s.productTypes, p.outline.WellNamed) ∧ (s.productTypes.map (·.id)).Nodup := by
  rw [validate, Outcome.check_bind_eq_ok_iff]
  simp only [Outline.check_eq_ok_iff, fresh_nil_iff, List.forall_mem_map, List.map_map,
    Bool.false_eq_true, false_implies, and_true, true_implies]
  rfl

end SchemaProjection
