import SchemaProjection.Proofs.Text.SnakeCase

namespace SchemaProjection.Identifier

open Text

variable {s t a b name : String}

/-- The identifier for a name in snake case. -/
def escaped (snake : String) : String :=
  if reservedKeywords.contains snake then snake ++ "_"
  else if rawKeywords.contains snake then "r#" ++ snake
  else snake

theorem ofName_eq_escaped (name : String) : ofName name = escaped (snakeCase name) := rfl

theorem escaped_cases (s : String) :
    (s ∈ reservedKeywords ∧ escaped s = s ++ "_") ∨ (s ∈ rawKeywords ∧ escaped s = "r#" ++ s) ∨
      (isKeyword s = false ∧ escaped s = s) := by
  by_cases hs : s ∈ reservedKeywords
  · exact .inl ⟨hs, if_pos (List.contains_iff_mem.mpr hs)⟩
  · right
    have hn : ¬ reservedKeywords.contains s = true := mt List.contains_iff_mem.mp hs
    by_cases hr : s ∈ rawKeywords
    · exact .inl ⟨hr, by rw [escaped, if_neg hn, if_pos (List.contains_iff_mem.mpr hr)]⟩
    · have hm : ¬ rawKeywords.contains s = true := mt List.contains_iff_mem.mp hr
      refine .inr ⟨?_, by rw [escaped, if_neg hn, if_neg hm]⟩
      rw [isKeyword, Bool.or_eq_false_iff]
      exact ⟨eq_false_of_ne_true hm, eq_false_of_ne_true hn⟩

theorem isWordChar_of_isIdentifier (h : isIdentifier name = true) :
    ∀ x ∈ name.toList, isWordChar x = true := by
  rw [isIdentifier] at h
  cases hc : name.toList with
  | nil => simp
  | cons c cs =>
    rw [hc, isIdentifierChars, Bool.and_eq_true, List.all_eq_true] at h
    obtain ⟨hh, ht⟩ := h
    refine List.forall_mem_cons.mpr ⟨?_, ht⟩
    simp only [Bool.or_eq_true, Bool.and_eq_true] at hh
    rw [isWordChar, Bool.or_eq_true, isAlphanum_iff]
    exact hh.imp Or.inl And.left

theorem isIdentifier_snakeCase (h : isIdentifier name = true) :
    isIdentifier (snakeCase name) = true := by
  have hword := isWordChar_of_mem_snakeCase (isWordChar_of_isIdentifier h)
  rw [isIdentifier] at h ⊢
  rw [snakeCase, String.toList_ofList] at hword ⊢
  cases hc : name.toList with
  | nil =>
    rw [hc] at h
    cases h
  | cons c cs =>
    rw [hc, isIdentifierChars, Bool.and_eq_true] at h
    rw [hc, snakeFrom_none_cons] at hword
    rw [snakeFrom_none_cons, isIdentifierChars, Bool.and_eq_true, List.all_eq_true]
    refine ⟨?_, (List.forall_mem_cons.mp hword).2⟩
    obtain hletter | hunderscore := Bool.or_eq_true_iff.mp h.1
    · rw [isAlpha_toLower hletter, Bool.true_or]
    · rw [Bool.and_eq_true, beq_iff_eq] at hunderscore
      obtain ⟨rfl, hcs⟩ := hunderscore
      cases cs with
      | nil => cases hcs
      | cons d ds =>
        rw [snakeFrom]
        split <;> rfl

theorem isIdentifierChars_map_toUpper {cs : List Char} (h : isIdentifierChars cs = true) :
    isIdentifierChars (cs.map Char.toUpper) = true := by
  cases cs with
  | nil => cases h
  | cons c cs =>
    rw [isIdentifierChars, Bool.and_eq_true, List.all_eq_true] at h
    rw [List.map_cons, isIdentifierChars, Bool.and_eq_true, List.all_eq_true, List.forall_mem_map]
    refine ⟨?_, fun x hx => isWordChar_toUpper (h.2 x hx)⟩
    obtain hletter | hunderscore := Bool.or_eq_true_iff.mp h.1
    · rw [isAlpha_toUpper hletter, Bool.true_or]
    · rw [Bool.and_eq_true, beq_iff_eq] at hunderscore
      obtain ⟨rfl, hcs⟩ := hunderscore
      cases cs with
      | nil => cases hcs
      | cons d ds => rfl

theorem isIdentifier_upperSnakeCase (h : isIdentifier name = true) :
    isIdentifier (upperSnakeCase name) = true := by
  rw [isIdentifier, toList_upperSnakeCase]
  exact isIdentifierChars_map_toUpper (isIdentifier_snakeCase h)

theorem hash_notMem_snakeCase (h : isIdentifier name = true) : '#' ∉ (snakeCase name).toList := by
  intro hm
  have hw := isWordChar_of_mem_snakeCase (isWordChar_of_isIdentifier h) _ hm
  exact absurd hw (by decide)

theorem escaped_suffixed : ∀ k ∈ reservedKeywords, escaped (k ++ "_") = escaped k := by
  decide +kernel

/-- The mark of raw identifiers keeps them apart from all others. -/
theorem escaped_eq_escaped_iff (hs : '#' ∉ s.toList) (ht : '#' ∉ t.toList) :
    escaped s = escaped t ↔
      s = t ∨ (s ∈ reservedKeywords ∧ t = s ++ "_") ∨ (t ∈ reservedKeywords ∧ s = t ++ "_") := by
  have marked (k : String) : '#' ∈ ("r#" ++ k).toList := by simp
  have suffixed {k : String} (hk : '#' ∉ k.toList) : '#' ∉ (k ++ "_").toList := by
    simpa using hk
  constructor
  · intro h
    obtain ⟨hsk, hse⟩ | ⟨-, hse⟩ | ⟨-, hse⟩ := escaped_cases s <;>
    obtain ⟨htk, hte⟩ | ⟨-, hte⟩ | ⟨-, hte⟩ := escaped_cases t <;>
    rw [hse, hte] at h
    · exact .inl ((String.append_left_inj _).mp h)
    · exact absurd (h ▸ marked t) (suffixed hs)
    · exact .inr (.inl ⟨hsk, h.symm⟩)
    · exact absurd (h ▸ marked s) (suffixed ht)
    · exact .inl ((String.append_right_inj _).mp h)
    · exact absurd (h ▸ marked s) ht
    · exact .inr (.inr ⟨htk, h⟩)
    · exact absurd (h ▸ marked t) hs
    · exact .inl h
  · rintro (rfl | ⟨hk, rfl⟩ | ⟨hk, rfl⟩)
    · rfl
    · exact (escaped_suffixed s hk).symm
    · exact escaped_suffixed t hk

/-- `Self` is no snake-case form. -/
theorem snakeCase_mem_reservedKeywords_iff :
    snakeCase name ∈ reservedKeywords ↔ snakeCase name ∈ ["crate", "self", "super"] := by
  have hS : snakeCase name ≠ "Self" := by
    intro he
    have hu := isUpper_eq_false_of_mem_snakeCase name 'S' (by rw [he]; decide)
    exact absurd hu (by decide)
  simp only [reservedKeywords, List.mem_cons, List.not_mem_nil, or_false, hS]

theorem ofName_eq_ofName_iff (ha : isIdentifier a = true) (hb : isIdentifier b = true) :
    ofName a = ofName b ↔
      snakeCase a = snakeCase b ∨ ∃ k ∈ ["crate", "self", "super"],
        (snakeCase a = k ∧ snakeCase b = k ++ "_") ∨
        (snakeCase b = k ∧ snakeCase a = k ++ "_") := by
  rw [ofName_eq_escaped, ofName_eq_escaped,
    escaped_eq_escaped_iff (hash_notMem_snakeCase ha) (hash_notMem_snakeCase hb),
    snakeCase_mem_reservedKeywords_iff, snakeCase_mem_reservedKeywords_iff]
  refine or_congr_right ⟨?_, ?_⟩
  · rintro (⟨hk, he⟩ | ⟨hk, he⟩)
    · exact ⟨_, hk, .inl ⟨rfl, he⟩⟩
    · exact ⟨_, hk, .inr ⟨rfl, he⟩⟩
  · rintro ⟨_, hk, ⟨rfl, he⟩ | ⟨rfl, he⟩⟩
    · exact .inl ⟨hk, he⟩
    · exact .inr ⟨hk, he⟩

theorem isUpper_eq_false_of_mem_ofName (name : String) :
    ∀ x ∈ (ofName name).toList, x.isUpper = false := by
  have hs := isUpper_eq_false_of_mem_snakeCase name
  rw [ofName_eq_escaped]
  obtain ⟨-, he⟩ | ⟨-, he⟩ | ⟨-, he⟩ := escaped_cases (snakeCase name)
  · rw [he, String.toList_append]
    exact List.forall_mem_append.mpr ⟨hs, by simp⟩
  · rw [he, String.toList_append]
    exact List.forall_mem_append.mpr ⟨by simp, hs⟩
  · rw [he]
    exact hs

theorem ofName_eq_self_iff (hi : isIdentifier name = true) (hk : isKeyword name = false) :
    ofName name = name ↔ ∀ x ∈ name.toList, x.isUpper = false := by
  constructor
  · intro he
    rw [← he]
    exact isUpper_eq_false_of_mem_ofName name
  · intro hu
    have hs : snakeCase name = name :=
      (snakeCase_eq_self_iff (isWordChar_of_isIdentifier hi)).mpr hu
    rw [isKeyword, Bool.or_eq_false_iff] at hk
    rw [ofName_eq_escaped, hs, escaped, if_neg (ne_true_of_eq_false hk.2),
      if_neg (ne_true_of_eq_false hk.1)]

end SchemaProjection.Identifier
