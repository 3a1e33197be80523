import SchemaProjection.Proofs.KeyMap
import SchemaProjection.Schema.Index

namespace SchemaProjection

namespace ProductType

/-- The loop that builds the index. A position that is known already is kept; any other is the
first among the product types still to be seen. -/
theorem get?_positionsFrom (start : Nat) (known : KeyMap Nat) (ps : List ProductType)
    (id : String) :
    (positionsFrom start known ps).get? id =
      (known.get? id).or ((ps.findIdx? (·.id == id)).map (start + ·)) := by
  induction ps generalizing start known with
  | nil => simp [positionsFrom]
  | cons p ps ih =>
    rw [positionsFrom, ih, KeyMap.get?_insertNew, List.findIdx?_cons, Option.or_assoc]
    by_cases h : p.id = id
    · simp [h]
    · have hs : ∀ i, start + 1 + i = start + (i + 1) := fun i => by omega
      simp [h, Ne.symm h, hs, Function.comp_def]

theorem get?_positions (ps : List ProductType) (id : String) :
    (positions ps).get? id = ps.findIdx? (·.id == id) := by
  rw [positions, get?_positionsFrom, show (∅ : KeyMap Nat).get? id = none from rfl]
  simp

/-- At the position stands the product type with the id, and none before it has that id. -/
structure IsFirst (ps : List ProductType) (id : String) (k : Nat) (p : ProductType) : Prop where
  stands : ps[k]? = some p
  id_eq : p.id = id
  id_ne : ∀ j < k, ∀ q, ps[j]? = some q → q.id ≠ id

theorem findIdx?_eq_some_iff_isFirst {ps : List ProductType} {id : String} {k : Nat} :
    ps.findIdx? (·.id == id) = some k ↔ ∃ p, IsFirst ps id k p := by
  rw [List.findIdx?_eq_some_iff_getElem]
  constructor
  · rintro ⟨hk, hid, hearlier⟩
    refine ⟨ps[k], List.getElem?_eq_getElem hk, by simpa using hid, fun j hj q hq => ?_⟩
    obtain ⟨_, rfl⟩ := List.getElem?_eq_some_iff.mp hq
    simpa using hearlier j hj
  · rintro ⟨p, hp, hid, hearlier⟩
    obtain ⟨hk, rfl⟩ := List.getElem?_eq_some_iff.mp hp
    refine ⟨hk, by simpa using hid, fun j hj => ?_⟩
    simpa using hearlier j hj _ (List.getElem?_eq_getElem (Nat.lt_trans hj hk))

end ProductType

namespace Schema

variable {s : Schema} {id : String}

theorem get?_positions (s : Schema) (id : String) :
    s.positions.get? id = s.productTypes.findIdx? (·.id == id) := by
  rw [s.indexed, ProductType.get?_positions]

theorem productType?_eq_find? (s : Schema) (id : String) :
    s.productType? id = s.productTypes.find? (·.id == id) := by
  rw [productType?, get?_positions, List.find?_eq_bind_findIdx?_getElem?]

theorem productType?_eq_none_iff :
    s.productType? id = none ↔ ∀ p ∈ s.productTypes, p.id ≠ id := by
  simp [productType?_eq_find?]

theorem id_of_productType?_eq_some {p : ProductType} (h : s.productType? id = some p) :
    p.id = id := by
  rw [productType?_eq_find?] at h
  simpa using List.find?_some h

theorem productType?_eq_some_iff (h : (s.productTypes.map (·.id)).Nodup) {p : ProductType} :
    s.productType? id = some p ↔ p ∈ s.productTypes ∧ p.id = id := by
  rw [productType?_eq_find?]
  constructor
  · intro hp
    exact ⟨List.mem_of_find?_eq_some hp, by simpa using List.find?_some hp⟩
  · rintro ⟨hmem, rfl⟩
    obtain ⟨q, hq⟩ : ∃ q, s.productTypes.find? (·.id == p.id) = some q := by
      apply Option.isSome_iff_exists.mp
      rw [List.find?_isSome]
      exact ⟨p, hmem, beq_self_eq_true p.id⟩
    have hid : q.id = p.id := by simpa using List.find?_some hq
    rw [hq, List.inj_on_of_nodup_map h (List.mem_of_find?_eq_some hq) hmem hid]

theorem productType?_of_perm {s' : Schema} (h : (s.productTypes.map (·.id)).Nodup)
    (hp : s.productTypes.Perm s'.productTypes) (id : String) :
    s.productType? id = s'.productType? id := by
  have h' : (s'.productTypes.map (·.id)).Nodup := (hp.map (·.id)).nodup_iff.mp h
  apply Option.ext
  intro p
  rw [productType?_eq_some_iff h, productType?_eq_some_iff h', hp.mem_iff]

/-- What the index answers stands at the position of the first product type with the id. -/
theorem productType?_of_findIdx? {k : Nat}
    (h : s.productTypes.findIdx? (·.id == id) = some k) :
    ∃ p, s.productType? id = some p ∧ s.productTypes[k]? = some p := by
  obtain ⟨hk, -, -⟩ := List.findIdx?_eq_some_iff_getElem.mp h
  refine ⟨s.productTypes[k], ?_, List.getElem?_eq_getElem hk⟩
  rw [productType?, get?_positions, h, Option.bind_some, List.getElem?_eq_getElem hk]

theorem get?_positions_eq_some_iff {k : Nat} :
    s.positions.get? id = some k ↔ ∃ p, ProductType.IsFirst s.productTypes id k p := by
  rw [get?_positions, ProductType.findIdx?_eq_some_iff_isFirst]

theorem productType?_eq_some_iff_isFirst {p : ProductType} :
    s.productType? id = some p ↔ ∃ k, ProductType.IsFirst s.productTypes id k p := by
  rw [productType?, Option.bind_eq_some_iff]
  constructor
  · rintro ⟨k, hk, hp⟩
    obtain ⟨q, hq⟩ := get?_positions_eq_some_iff.mp hk
    obtain rfl : q = p := Option.some.inj (hq.stands.symm.trans hp)
    exact ⟨k, hq⟩
  · rintro ⟨k, hfirst⟩
    exact ⟨k, get?_positions_eq_some_iff.mpr ⟨p, hfirst⟩, hfirst.stands⟩

/-- The index of a collection holds for each id the position of the first product type that has it,
and nothing else. So a look-up finds that one, and it only fails for an id that none has. -/
theorem productType?_finds_first (types : List CustomFieldType) (ps : List ProductType)
    (id : String) :
    (∀ p, (ofCollections types ps).productType? id = some p ↔
      ∃ k, ProductType.IsFirst ps id k p) ∧
    ((ofCollections types ps).productType? id = none ↔ ∀ p ∈ ps, p.id ≠ id) ∧
    (∀ k, (ofCollections types ps).positions.get? id = some k ↔
      ∃ p, ProductType.IsFirst ps id k p) ∧
    (∀ e ∈ (ofCollections types ps).positions.entries, e.2 < ps.length) ∧
    ∀ k, (ofCollections types ps).positions.get? id = some k →
      ∃ p, ps[k]? = some p ∧ (ofCollections types ps).productType? id = some p := by
  refine ⟨fun p => productType?_eq_some_iff_isFirst, productType?_eq_none_iff,
    fun k => get?_positions_eq_some_iff, fun e he => ?_, fun k hk => ?_⟩
  · obtain ⟨p, hfirst⟩ := get?_positions_eq_some_iff.mp (KeyMap.get?_eq_some_iff.mpr he)
    exact (List.getElem?_eq_some_iff.mp hfirst.stands).1
  · obtain ⟨p, hfirst⟩ := get?_positions_eq_some_iff.mp hk
    exact ⟨p, hfirst.stands, productType?_eq_some_iff_isFirst.mpr ⟨k, hfirst⟩⟩

def revised : List ProductType :=
  [{ id := "hat", name := "Hat" }, { id := "coat", name := "Coat" },
   { id := "hat", name := "Cap" }]

theorem productType?_finds_first_revised :
    (ofCollections [] revised).productType? "hat" = some { id := "hat", name := "Hat" } ∧
    (ofCollections [] revised).productType? "cap" = none ∧
    ∃ p, revised[1]? = some p ∧ (ofCollections [] revised).productType? "coat" = some p := by
  obtain ⟨hhat, -⟩ := productType?_finds_first [] revised "hat"
  obtain ⟨-, hcap, -⟩ := productType?_finds_first [] revised "cap"
  obtain ⟨-, -, -, -, hcoat⟩ := productType?_finds_first [] revised "coat"
  refine ⟨(hhat _).mpr ⟨0, rfl, rfl, fun j hj => absurd hj (Nat.not_lt_zero j)⟩,
    hcap.mpr (by decide), hcoat 1 (by decide)⟩

end Schema

end SchemaProjection
