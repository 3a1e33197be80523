import Mathlib.Data.List.Nodup
import Mathlib.Data.List.Perm.Basic
import SchemaProjection.KeyMap

namespace SchemaProjection

variable {α : Type}

theorem lookup_eq_none_iff_notMem {es : List (String × α)} {name : String} :
    es.lookup name = none ↔ name ∉ es.map (·.1) := by
  rw [List.lookup_eq_none_iff]
  simp only [bne_iff_ne, ne_eq, List.mem_map, not_exists, not_and]
  exact forall₂_congr fun _ _ => not_congr eq_comm

theorem lookup_eq_some_iff_mem {es : List (String × α)} (h : (es.map (·.1)).Nodup) {k : String}
    {v : α} : es.lookup k = some v ↔ (k, v) ∈ es := by
  induction es with
  | nil => simp
  | cons e es ih =>
    obtain ⟨name, value⟩ := e
    obtain ⟨hname, hes⟩ := List.nodup_cons.mp h
    rw [KeyMap.lookup_cons_eq_ite, List.mem_cons, Prod.mk.injEq]
    split
    next heq =>
      subst heq
      have hnot : (k, v) ∉ es := fun hm => hname (List.mem_map.mpr ⟨(k, v), hm, rfl⟩)
      simp [hnot, eq_comm]
    next hne => simp [hne, ih hes]

namespace KeyMap

variable {m n : KeyMap α} {k k' : String} {v : α}

theorem get?_eq_none_iff : m.get? k = none ↔ k ∉ m.keys :=
  lookup_eq_none_iff_notMem

theorem mem_keys_iff : k ∈ m.keys ↔ m.get? k ≠ none :=
  (not_congr get?_eq_none_iff).trans not_not |>.symm

theorem mem_keys_iff_exists : k ∈ m.keys ↔ ∃ v, m.get? k = some v :=
  mem_keys_iff.trans Option.ne_none_iff_exists'

theorem nodup_keys (m : KeyMap α) : m.keys.Nodup := by
  rw [keys, List.Nodup, List.pairwise_map]
  apply m.ordered.imp
  intro a b hlt he
  rw [he] at hlt
  exact String.lt_irrefl _ hlt

theorem mem_keys_insert : k' ∈ (m.insert k v).keys ↔ k' = k ∨ k' ∈ m.keys := by
  rw [mem_keys_iff, mem_keys_iff, get?_insert]
  by_cases h : k' = k
  · simp [h]
  · simp [h]

theorem get?_update (m : KeyMap α) (k k' : String) (default : α) (f : α → α) :
    (m.update k default f).get? k' =
      if k' = k then some (f ((m.get? k).getD default)) else m.get? k' :=
  get?_insert m k k' _

theorem get?_eq_some_iff : m.get? k = some v ↔ (k, v) ∈ m.entries :=
  lookup_eq_some_iff_mem m.nodup_keys

theorem ext_get? (h : ∀ k, m.get? k = n.get? k) : m = n := by
  apply eq_of_entries
  have hperm : m.entries.Perm n.entries := by
    rw [List.perm_ext_iff_of_nodup (List.Nodup.of_map _ m.nodup_keys)
      (List.Nodup.of_map _ n.nodup_keys)]
    rintro ⟨k, v⟩
    rw [← get?_eq_some_iff, ← get?_eq_some_iff, h]
  exact hperm.eq_of_pairwise (fun a b _ _ hab hba => absurd hba (String.lt_asymm hab))
    m.ordered n.ordered

theorem get?_foldl_insert {es : List (String × α)} (h : (es.map (·.1)).Nodup) (m : KeyMap α)
    (k : String) :
    (es.foldl (fun m e => m.insert e.1 e.2) m).get? k = (es.lookup k).or (m.get? k) := by
  induction es generalizing m with
  | nil => rfl
  | cons e es ih =>
    obtain ⟨name, value⟩ := e
    obtain ⟨hname, hes⟩ := List.nodup_cons.mp h
    rw [List.foldl_cons, ih hes, get?_insert, lookup_cons_eq_ite]
    split
    next heq =>
      subst heq
      rw [lookup_eq_none_iff_notMem.mpr hname]
      rfl
    next => rfl

theorem ofList_eq_of_perm {es es' : List (String × α)} (h : (es.map (·.1)).Nodup)
    (hp : es.Perm es') : ofList es = ofList es' := by
  have h' : (es'.map (·.1)).Nodup := (hp.map (·.1)).nodup_iff.mp h
  have hlookup (k : String) : es.lookup k = es'.lookup k := by
    apply Option.ext
    intro v
    rw [lookup_eq_some_iff_mem h, lookup_eq_some_iff_mem h', hp.mem_iff]
  apply ext_get?
  intro k
  rw [ofList, ofList, get?_foldl_insert h, get?_foldl_insert h', hlookup]

theorem ofList_entries (m : KeyMap α) : ofList m.entries = m := by
  apply ext_get?
  intro k
  rw [ofList, get?_foldl_insert m.nodup_keys]
  exact Option.or_none

end KeyMap

end SchemaProjection
