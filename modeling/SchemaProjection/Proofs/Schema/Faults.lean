import SchemaProjection.Proofs.Schema.Validation

namespace SchemaProjection

/-- What the collections of a schema have to be like: no name is empty, and none is given twice where
it has to be unique. -/
structure Consistent (ts : List CustomFieldType) (ps : List ProductType) : Prop where
  types : ∀ t ∈ ts, t.id ≠ "" ∧ t.key ≠ ""
  productTypes : ∀ p ∈ ps, p.id ≠ "" ∧ p.key.getD p.name ≠ ""
  typeIds : (ts.map (·.id)).Nodup
  productTypeIds : (ps.map (·.id)).Nodup
  typeKeys : (ts.map (·.key)).Nodup
  fields : ∀ t ∈ ts, (∀ d ∈ t.fields, d.name ≠ "") ∧ (t.fields.map (·.name)).Nodup
  attributes : ∀ p ∈ ps, (∀ d ∈ p.attributes, d.name ≠ "") ∧ (p.attributes.map (·.name)).Nodup

namespace Outline

variable {entity : Identity} {names : List String} {before : List Outline} {o : Outline}
  {uniqueKeys : Bool} {e : SchemaError}

/-- The error for the first field name of an entity that is empty or has been given before. -/
inductive FieldFault (entity : Identity) (names : List String) : SchemaError → Prop
  | empty {before after : List String} (hsplit : names = before ++ "" :: after)
    (hempty : "" ∉ before) (hnodup : before.Nodup) :
    FieldFault entity names (.emptyName entity.kind entity.key .field)
  | repeated {before after : List String} {name : String}
    (hsplit : names = before ++ name :: after) (hempty : "" ∉ before) (hnodup : before.Nodup)
    (hname : name ≠ "") (hmem : name ∈ before) :
    FieldFault entity names (.duplicateField entity.kind entity.key name)

/-- The error for an entity that comes after `before`. Of several faults it is the first in this
order that counts. -/
inductive Fault (uniqueKeys : Bool) (before : List Outline) (o : Outline) : SchemaError → Prop
  | emptyId (h : o.identity.id = "") :
    Fault uniqueKeys before o (.emptyName o.identity.kind o.identity.key .id)
  | emptyKey (hid : o.identity.id ≠ "") (h : o.identity.key = "") :
    Fault uniqueKeys before o (.emptyName o.identity.kind o.identity.id .key)
  | repeatedId (hid : o.identity.id ≠ "") (hkey : o.identity.key ≠ "")
    (h : o.identity.id ∈ before.map (·.identity.id)) :
    Fault uniqueKeys before o (.duplicateEntity o.identity.kind o.identity.id)
  | repeatedKey (hid : o.identity.id ≠ "") (hkey : o.identity.key ≠ "")
    (hnew : o.identity.id ∉ before.map (·.identity.id)) (hunique : uniqueKeys = true)
    (h : o.identity.key ∈ before.map (·.identity.key)) :
    Fault uniqueKeys before o (.duplicateEntity o.identity.kind o.identity.key)
  | field {e : SchemaError} (hid : o.identity.id ≠ "") (hkey : o.identity.key ≠ "")
    (hnew : o.identity.id ∉ before.map (·.identity.id))
    (hunique : uniqueKeys = true → o.identity.key ∉ before.map (·.identity.key))
    (h : FieldFault o.identity o.fieldNames e) :
    Fault uniqueKeys before o e

theorem checkFields_append (entity : Identity) (seen names more : List String) :
    checkFields entity seen (names ++ more) =
      checkFields entity seen names >>= fun _ =>
        checkFields entity (names.reverse ++ seen) more := by
  induction names generalizing seen with
  | nil => rfl
  | cons name names ih =>
    rw [List.cons_append, checkFields, checkFields]
    split
    · rfl
    · split
      · rfl
      · rw [ih, List.reverse_cons, List.append_assoc, List.singleton_append]

theorem checkFields_singleton_eq_error_iff {seen : List String} {name : String} :
    checkFields entity seen [name] = .error e ↔
      name = "" ∧ e = .emptyName entity.kind entity.key .field ∨
      name ≠ "" ∧ name ∈ seen ∧ e = .duplicateField entity.kind entity.key name := by
  rw [checkFields, checkFields]
  simp only [List.contains_iff_mem]
  split
  next h => simp [h, eq_comm]
  next h =>
    split
    next hs => simp [h, hs, eq_comm]
    next hs => simp [h, hs]

theorem checkFields_eq_error_iff :
    checkFields entity [] names = .error e ↔ FieldFault entity names e := by
  have happend (names : List String) (name : String) : checkFields entity [] (names ++ [name]) =
      checkFields entity [] names >>= fun _ => checkFields entity names.reverse [name] := by
    rw [checkFields_append, List.append_nil]
  rw [Outcome.scan_eq_error_iff rfl happend]
  simp only [checkFields_eq_ok_iff, checkFields_singleton_eq_error_iff, fresh_nil_iff,
    List.mem_reverse]
  constructor
  · rintro ⟨before, name, after, hsplit, ⟨hempty, hnodup⟩, ⟨rfl, rfl⟩ | ⟨hname, hmem, rfl⟩⟩
    · exact .empty hsplit hempty hnodup
    · exact .repeated hsplit hempty hnodup hname hmem
  · rintro (⟨hsplit, hempty, hnodup⟩ | ⟨hsplit, hempty, hnodup, hname, hmem⟩)
    · exact ⟨_, _, _, hsplit, ⟨hempty, hnodup⟩, .inl ⟨rfl, rfl⟩⟩
    · exact ⟨_, _, _, hsplit, ⟨hempty, hnodup⟩, .inr ⟨hname, hmem, rfl⟩⟩

theorem check_cons (uniqueKeys : Bool) (ids keys : List String) (o : Outline) (os : List Outline) :
    check uniqueKeys ids keys (o :: os) =
      check uniqueKeys ids keys [o] >>= fun _ =>
        check uniqueKeys (o.identity.id :: ids) (o.identity.key :: keys) os := by
  rw [check, check]
  simp only [Outcome.throw_if_bind, bind_assoc]
  rfl

theorem check_append (uniqueKeys : Bool) (ids keys : List String) (os more : List Outline) :
    check uniqueKeys ids keys (os ++ more) =
      check uniqueKeys ids keys os >>= fun _ =>
        check uniqueKeys ((os.map (·.identity.id)).reverse ++ ids)
          ((os.map (·.identity.key)).reverse ++ keys) more := by
  induction os generalizing ids keys with
  | nil => rfl
  | cons o os ih =>
    rw [List.cons_append, check_cons, check_cons _ _ _ o os, bind_assoc, ih]
    simp only [List.map_cons, List.reverse_cons, List.append_assoc, List.singleton_append]

theorem check_singleton_eq_error_iff :
    check uniqueKeys (before.map (·.identity.id)).reverse (before.map (·.identity.key)).reverse [o]
      = .error e ↔ Fault uniqueKeys before o e := by
  rw [check]
  simp only [Outcome.throw_if_eq_error_iff, Outcome.check_bind_eq_error_iff, check,
    checkFields_eq_error_iff, Bool.and_eq_true, List.contains_iff_mem, List.mem_reverse, not_and,
    reduceCtorEq, and_false, or_false]
  constructor
  · rintro (⟨h, rfl⟩ | ⟨hid, ⟨h, rfl⟩ | ⟨hkey, ⟨h, rfl⟩ | ⟨hnew, ⟨⟨hunique, h⟩, rfl⟩ | ⟨hunique, h⟩⟩⟩⟩)
    · exact .emptyId h
    · exact .emptyKey hid h
    · exact .repeatedId hid hkey h
    · exact .repeatedKey hid hkey hnew hunique h
    · exact .field hid hkey hnew hunique h
  · intro h
    cases h with
    | emptyId h => exact .inl ⟨h, rfl⟩
    | emptyKey hid h => exact .inr ⟨hid, .inl ⟨h, rfl⟩⟩
    | repeatedId hid hkey h => exact .inr ⟨hid, .inr ⟨hkey, .inl ⟨h, rfl⟩⟩⟩
    | repeatedKey hid hkey hnew hunique h =>
      exact .inr ⟨hid, .inr ⟨hkey, .inr ⟨hnew, .inl ⟨⟨hunique, h⟩, rfl⟩⟩⟩⟩
    | field hid hkey hnew hunique h =>
      exact .inr ⟨hid, .inr ⟨hkey, .inr ⟨hnew, .inr ⟨hunique, h⟩⟩⟩⟩

theorem check_eq_error_iff {os : List Outline} :
    check uniqueKeys [] [] os = .error e ↔
      ∃ before o after, os = before ++ o :: after ∧ check uniqueKeys [] [] before = .ok () ∧
        Fault uniqueKeys before o e := by
  have happend (os : List Outline) (o : Outline) : check uniqueKeys [] [] (os ++ [o]) =
      check uniqueKeys [] [] os >>= fun _ => check uniqueKeys (os.map (·.identity.id)).reverse
        (os.map (·.identity.key)).reverse [o] := by
    rw [check_append, List.append_nil, List.append_nil]
  rw [Outcome.scan_eq_error_iff rfl happend]
  simp only [check_singleton_eq_error_iff]

theorem check_map_eq_error_iff {α : Type} {outline : α → Outline} {xs : List α} :
    check uniqueKeys [] [] (xs.map outline) = .error e ↔
      ∃ before x after, xs = before ++ x :: after ∧
        check uniqueKeys [] [] (before.map outline) = .ok () ∧
        Fault uniqueKeys (before.map outline) (outline x) e := by
  simp only [check_eq_error_iff, List.map_eq_append_iff, List.map_eq_cons_iff]
  constructor
  · rintro ⟨_, _, _, ⟨before, _, rfl, rfl, x, after, rfl, rfl, rfl⟩, hbefore, hx⟩
    exact ⟨before, x, after, rfl, hbefore, hx⟩
  · rintro ⟨before, x, after, rfl, hbefore, hx⟩
    exact ⟨_, _, _, ⟨before, _, rfl, rfl, x, after, rfl, rfl, rfl⟩, hbefore, hx⟩

end Outline

variable {ts : List CustomFieldType} {ps : List ProductType}

theorem CustomFieldType.wellNamed_iff {t : CustomFieldType} :
    t.outline.WellNamed ↔ (t.id ≠ "" ∧ t.key ≠ "") ∧
      (∀ d ∈ t.fields, d.name ≠ "") ∧ (t.fields.map (·.name)).Nodup := by
  have hempty : "" ∉ t.outline.fieldNames ↔ ∀ d ∈ t.fields, d.name ≠ "" := by
    simp [CustomFieldType.outline]
  rw [← hempty]
  exact ⟨fun h => ⟨⟨h.id, h.key⟩, h.notEmpty, h.nodup⟩,
    fun ⟨⟨hid, hkey⟩, hn, hd⟩ => ⟨hid, hkey, hn, hd⟩⟩

theorem ProductType.wellNamed_iff {p : ProductType} :
    p.outline.WellNamed ↔ (p.id ≠ "" ∧ p.key.getD p.name ≠ "") ∧
      (∀ d ∈ p.attributes, d.name ≠ "") ∧ (p.attributes.map (·.name)).Nodup := by
  have hempty : "" ∉ p.outline.fieldNames ↔ ∀ d ∈ p.attributes, d.name ≠ "" := by
    simp [ProductType.outline]
  rw [← hempty]
  exact ⟨fun h => ⟨⟨h.id, h.key⟩, h.notEmpty, h.nodup⟩,
    fun ⟨⟨hid, hkey⟩, hn, hd⟩ => ⟨hid, hkey, hn, hd⟩⟩

theorem consistent_iff :
    Consistent ts ps ↔
      Outline.check true [] [] (ts.map CustomFieldType.outline) = .ok () ∧
        Outline.check false [] [] (ps.map ProductType.outline) = .ok () := by
  simp only [Outline.check_eq_ok_iff, fresh_nil_iff, List.forall_mem_map, List.map_map,
    Bool.false_eq_true, false_implies, and_true, true_implies, CustomFieldType.wellNamed_iff,
    ProductType.wellNamed_iff]
  constructor
  · intro h
    exact ⟨⟨fun t ht => ⟨h.types t ht, h.fields t ht⟩, h.typeIds, h.typeKeys⟩,
      fun p hp => ⟨h.productTypes p hp, h.attributes p hp⟩, h.productTypeIds⟩
  · rintro ⟨⟨ht, hids, hkeys⟩, hp, hproductIds⟩
    exact ⟨fun t h => (ht t h).1, fun p h => (hp p h).1, hids, hproductIds, hkeys,
      fun t h => (ht t h).2, fun p h => (hp p h).2⟩

/-- A schema is refused for its first entity that has a fault, and the types come before the product
types. Up to that entity the schema is consistent. -/
theorem Schema.validate_finds_first_fault (s : Schema) :
    (s.validate = .ok () ↔ Consistent s.types s.productTypes) ∧
    ∀ e, s.validate = .error e ↔
      (∃ before t after, s.types = before ++ t :: after ∧ Consistent before [] ∧
        Outline.Fault true (before.map CustomFieldType.outline) t.outline e) ∨
      ∃ before p after, s.productTypes = before ++ p :: after ∧ Consistent s.types before ∧
        Outline.Fault false (before.map ProductType.outline) p.outline e := by
  constructor
  · rw [validate, Outcome.check_bind_eq_ok_iff, consistent_iff]
  · intro e
    rw [validate, Outcome.check_bind_eq_error_iff, Outline.check_map_eq_error_iff,
      Outline.check_map_eq_error_iff]
    have htypes (ts : List CustomFieldType) : Consistent ts [] ↔
        Outline.check true [] [] (ts.map CustomFieldType.outline) = .ok () :=
      consistent_iff.trans (and_iff_left rfl)
    refine or_congr ?_ ?_
    · simp only [htypes]
    · constructor
      · rintro ⟨hchecked, before, p, after, hsplit, hbefore, hp⟩
        exact ⟨before, p, after, hsplit, consistent_iff.mpr ⟨hchecked, hbefore⟩, hp⟩
      · rintro ⟨before, p, after, hsplit, hbefore, hp⟩
        obtain ⟨hchecked, hbefore⟩ := consistent_iff.mp hbefore
        exact ⟨hchecked, before, p, after, hsplit, hbefore, hp⟩

end SchemaProjection
