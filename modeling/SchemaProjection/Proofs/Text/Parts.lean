import SchemaProjection.Text.Parts

namespace SchemaProjection.Text

variable {isSeparator : Char → Bool}

theorem partsFrom_append_cons (part xs : List Char) {c : Char} (hc : isSeparator c = true)
    (ys : List Char) :
    partsFrom isSeparator part (xs ++ c :: ys) =
      partsFrom isSeparator part xs ++ partsFrom isSeparator [] ys := by
  induction xs generalizing part with
  | nil =>
    simp only [List.nil_append, partsFrom, hc, if_true]
    split <;> rfl
  | cons x xs ih =>
    rw [List.cons_append, partsFrom, partsFrom]
    split
    · split
      · exact ih []
      · rw [ih [], List.cons_append]
    · exact ih (x :: part)

theorem mem_partsFrom {part cs w : List Char} (hw : w ∈ partsFrom isSeparator part cs) :
    w ≠ [] ∧ ∀ x ∈ w, x ∈ part ∨ (x ∈ cs ∧ isSeparator x = false) := by
  induction cs generalizing part with
  | nil =>
    rw [partsFrom] at hw
    split at hw
    next => cases hw
    next hp =>
      rw [List.mem_singleton] at hw
      subst hw
      exact ⟨by simpa using hp, fun x hx => .inl (List.mem_reverse.mp hx)⟩
  | cons c cs ih =>
    have tail (h : w ∈ partsFrom isSeparator [] cs) :
        w ≠ [] ∧ ∀ x ∈ w, x ∈ part ∨ (x ∈ c :: cs ∧ isSeparator x = false) := by
      obtain ⟨hne, hx⟩ := ih h
      refine ⟨hne, fun x hm => .inr ?_⟩
      obtain ⟨hm, hs⟩ := (hx x hm).resolve_left List.not_mem_nil
      exact ⟨List.mem_cons_of_mem c hm, hs⟩
    rw [partsFrom] at hw
    split at hw
    next =>
      split at hw
      next => exact tail hw
      next hp =>
        obtain rfl | hw := List.mem_cons.mp hw
        · exact ⟨by simpa using hp, fun x hx => .inl (List.mem_reverse.mp hx)⟩
        · exact tail hw
    next hc =>
      obtain ⟨hne, hx⟩ := ih hw
      refine ⟨hne, fun x hm => ?_⟩
      obtain hm | ⟨hm, hs⟩ := hx x hm
      · obtain rfl | hm := List.mem_cons.mp hm
        · exact .inr ⟨List.mem_cons_self, by simpa using hc⟩
        · exact .inl hm
      · exact .inr ⟨List.mem_cons_of_mem c hm, hs⟩

theorem mem_parts {s w : String} (hw : w ∈ parts isSeparator s) :
    w ≠ "" ∧ ∀ x ∈ w.toList, x ∈ s.toList ∧ isSeparator x = false := by
  obtain ⟨cs, hcs, rfl⟩ := List.mem_map.mp hw
  obtain ⟨hne, hx⟩ := mem_partsFrom hcs
  refine ⟨fun h => hne (by simpa using congrArg String.toList h), fun x hm => ?_⟩
  rw [String.toList_ofList] at hm
  exact (hx x hm).resolve_left List.not_mem_nil

theorem flatten_partsFrom (part cs : List Char) :
    (partsFrom isSeparator part cs).flatten = part.reverse ++ cs.filter (!isSeparator ·) := by
  induction cs generalizing part with
  | nil =>
    rw [partsFrom]
    split
    next h => simp [List.isEmpty_iff.mp h]
    next => simp
  | cons c cs ih =>
    rw [partsFrom]
    split
    next hc =>
      rw [List.filter_cons_of_neg (by simp [hc])]
      split
      next h => rw [ih, List.isEmpty_iff.mp h]
      next => rw [List.flatten_cons, ih, List.reverse_nil, List.nil_append]
    next hc =>
      rw [List.filter_cons_of_pos (by simpa using hc), ih, List.reverse_cons, List.append_assoc,
        List.singleton_append]

theorem exists_mem_parts_iff {s : String} {x : Char} (h : isSeparator x = false) :
    (∃ w ∈ parts isSeparator s, x ∈ w.toList) ↔ x ∈ s.toList := by
  have hflat : x ∈ (partsFrom isSeparator [] s.toList).flatten ↔ x ∈ s.toList := by
    simp [flatten_partsFrom, h]
  rw [← hflat, List.mem_flatten]
  constructor
  · rintro ⟨w, hw, hx⟩
    obtain ⟨cs, hcs, rfl⟩ := List.mem_map.mp hw
    rw [String.toList_ofList] at hx
    exact ⟨cs, hcs, hx⟩
  · rintro ⟨cs, hcs, hx⟩
    refine ⟨_, List.mem_map_of_mem hcs, ?_⟩
    rwa [String.toList_ofList]

theorem partsFrom_separators_append {sep : List Char} (h : ∀ x ∈ sep, isSeparator x = true)
    (cs : List Char) : partsFrom isSeparator [] (sep ++ cs) = partsFrom isSeparator [] cs := by
  induction sep with
  | nil => rfl
  | cons c sep ih =>
    obtain ⟨hc, hsep⟩ := List.forall_mem_cons.mp h
    rw [List.cons_append, partsFrom, if_pos hc, if_pos List.isEmpty_nil, ih hsep]

theorem parts_append_separators (a b : String) {sep : String} (hne : sep ≠ "")
    (h : ∀ x ∈ sep.toList, isSeparator x = true) :
    parts isSeparator (a ++ sep ++ b) = parts isSeparator a ++ parts isSeparator b := by
  cases hsep : sep.toList with
  | nil => exact absurd (String.toList_eq_nil_iff.mp hsep) hne
  | cons c cs =>
    rw [hsep, List.forall_mem_cons] at h
    rw [parts, String.toList_append, String.toList_append, hsep, List.append_assoc,
      List.cons_append, partsFrom_append_cons _ _ h.1, partsFrom_separators_append h.2,
      List.map_append]
    rfl

theorem parts_append_singleton (a b : String) {c : Char} (hc : isSeparator c = true) :
    parts isSeparator (a ++ .singleton c ++ b) = parts isSeparator a ++ parts isSeparator b := by
  have hx : ∀ x ∈ (String.singleton c).toList, isSeparator x = true := by
    rw [String.toList_singleton]
    exact List.forall_mem_singleton.mpr hc
  exact parts_append_separators a b (fun h => by simpa using congrArg String.toList h) hx

theorem partsFrom_of_forall {part cs : List Char} (h : ∀ x ∈ cs, isSeparator x = false)
    (hne : part.reverse ++ cs ≠ []) : partsFrom isSeparator part cs = [part.reverse ++ cs] := by
  induction cs generalizing part with
  | nil =>
    rw [List.append_nil] at hne ⊢
    rw [partsFrom, if_neg]
    intro hempty
    rw [List.isEmpty_iff.mp hempty] at hne
    exact hne rfl
  | cons c cs ih =>
    obtain ⟨hc, hcs⟩ := List.forall_mem_cons.mp h
    have hcons : (c :: part).reverse ++ cs = part.reverse ++ c :: cs := by
      rw [List.reverse_cons, List.append_assoc, List.singleton_append]
    rw [partsFrom, if_neg (ne_true_of_eq_false hc), ih hcs (by rwa [hcons]), hcons]

theorem parts_eq_singleton {s : String} (hne : s ≠ "") (h : ∀ x ∈ s.toList, isSeparator x = false) :
    parts isSeparator s = [s] := by
  have hs : ([] : List Char).reverse ++ s.toList ≠ [] := fun hs =>
    hne (String.toList_eq_nil_iff.mp hs)
  rw [parts, partsFrom_of_forall h hs]
  simp

theorem parts_intercalate {sep : String} (hne : sep ≠ "")
    (h : ∀ x ∈ sep.toList, isSeparator x = true) (xs : List String) :
    parts isSeparator (sep.intercalate xs) = xs.flatMap (parts isSeparator) := by
  induction xs with
  | nil => rfl
  | cons x xs ih =>
    by_cases hxs : xs = []
    · rw [hxs]
      simp
    · rw [String.intercalate_cons_of_ne_nil hxs, parts_append_separators _ _ hne h, ih,
        List.flatMap_cons]

end SchemaProjection.Text
