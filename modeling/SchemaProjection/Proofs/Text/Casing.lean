namespace SchemaProjection.Text

variable {c : Char}

theorem isUpper_iff : c.isUpper = true ↔ 65 ≤ c.toNat ∧ c.toNat ≤ 90 := by
  unfold Char.isUpper
  rw [decide_eq_true_eq]
  exact Iff.rfl

theorem isLower_iff : c.isLower = true ↔ 97 ≤ c.toNat ∧ c.toNat ≤ 122 := by
  unfold Char.isLower
  rw [Bool.and_eq_true, decide_eq_true_eq, decide_eq_true_eq]
  exact Iff.rfl

theorem isDigit_iff : c.isDigit = true ↔ 48 ≤ c.toNat ∧ c.toNat ≤ 57 :=
  Char.isDigit_iff_toNat

theorem isAlpha_iff : c.isAlpha = true ↔ c.isUpper = true ∨ c.isLower = true :=
  Bool.or_eq_true_iff

theorem isAlphanum_iff : c.isAlphanum = true ↔ c.isAlpha = true ∨ c.isDigit = true :=
  Bool.or_eq_true_iff

theorem not_isLower_of_isUpper (h : c.isUpper = true) : ¬ c.isLower = true := by
  rw [isUpper_iff] at h
  rw [isLower_iff]
  omega

theorem toLower_eq_self (h : ¬ c.isUpper = true) : c.toLower = c :=
  dif_neg fun hc => h (isUpper_iff.mpr hc)

theorem toUpper_eq_self (h : ¬ c.isLower = true) : c.toUpper = c :=
  dif_neg fun hc => h (isLower_iff.mpr hc)

theorem toNat_toLower (h : c.isUpper = true) : c.toLower.toNat = c.toNat + 32 := by
  have hc := isUpper_iff.mp h
  have hval : c.val ≥ 'A'.val ∧ c.val ≤ 'Z'.val := hc
  unfold Char.toLower
  rw [dif_pos hval, Char.toNat, UInt32.toNat_add, Char.toNat_val]
  exact Nat.mod_eq_of_lt (show c.toNat + 32 < 2 ^ 32 by omega)

theorem toNat_toUpper (h : c.isLower = true) : c.toUpper.toNat = c.toNat - 32 := by
  have hc := isLower_iff.mp h
  have hval : c.val ≥ 'a'.val ∧ c.val ≤ 'z'.val := hc
  -- the sum overflows, for the small letters come after the others
  have hoffset : ('A'.val - 'a'.val).toNat = 2 ^ 32 - 32 := rfl
  unfold Char.toUpper
  rw [dif_pos hval, Char.toNat, UInt32.toNat_add, Char.toNat_val, hoffset]
  omega

theorem isLower_toLower (h : c.isUpper = true) : c.toLower.isLower = true := by
  have hc := isUpper_iff.mp h
  rw [isLower_iff, toNat_toLower h]
  omega

theorem isUpper_toUpper (h : c.isLower = true) : c.toUpper.isUpper = true := by
  have hc := isLower_iff.mp h
  rw [isUpper_iff, toNat_toUpper h]
  omega

theorem isUpper_toLower_eq_false (c : Char) : c.toLower.isUpper = false := by
  apply eq_false_of_ne_true
  by_cases h : c.isUpper = true
  · exact fun hu => not_isLower_of_isUpper hu (isLower_toLower h)
  · rwa [toLower_eq_self h]

theorem isLower_toUpper_eq_false (c : Char) : c.toUpper.isLower = false := by
  apply eq_false_of_ne_true
  by_cases h : c.isLower = true
  · exact not_isLower_of_isUpper (isUpper_toUpper h)
  · rwa [toUpper_eq_self h]

theorem toUpper_toLower (h : c.isUpper = true) : c.toLower.toUpper = c := by
  apply Char.toNat_inj.mp
  rw [toNat_toUpper (isLower_toLower h), toNat_toLower h, Nat.add_sub_cancel]

theorem toLower_toUpper (h : ¬ c.isUpper = true) : c.toUpper.toLower = c := by
  by_cases hl : c.isLower = true
  · have hc := isLower_iff.mp hl
    apply Char.toNat_inj.mp
    rw [toNat_toLower (isUpper_toUpper hl), toNat_toUpper hl]
    omega
  · rw [toUpper_eq_self hl, toLower_eq_self h]

theorem toLower_toLower (c : Char) : c.toLower.toLower = c.toLower :=
  toLower_eq_self (ne_true_of_eq_false (isUpper_toLower_eq_false c))

theorem toUpper_toUpper (c : Char) : c.toUpper.toUpper = c.toUpper :=
  toUpper_eq_self (ne_true_of_eq_false (isLower_toUpper_eq_false c))

theorem isAlpha_toLower (h : c.isAlpha = true) : c.toLower.isAlpha = true := by
  by_cases hu : c.isUpper = true
  · exact isAlpha_iff.mpr (.inr (isLower_toLower hu))
  · rwa [toLower_eq_self hu]

theorem isAlpha_toUpper (h : c.isAlpha = true) : c.toUpper.isAlpha = true := by
  by_cases hl : c.isLower = true
  · exact isAlpha_iff.mpr (.inl (isUpper_toUpper hl))
  · rwa [toUpper_eq_self hl]

theorem isAlphanum_toLower (h : c.isAlphanum = true) : c.toLower.isAlphanum = true := by
  by_cases hu : c.isUpper = true
  · exact isAlphanum_iff.mpr (.inl (isAlpha_toLower (isAlpha_iff.mpr (.inl hu))))
  · rwa [toLower_eq_self hu]

theorem isAlphanum_toUpper (h : c.isAlphanum = true) : c.toUpper.isAlphanum = true := by
  by_cases hl : c.isLower = true
  · exact isAlphanum_iff.mpr (.inl (isAlpha_toUpper (isAlpha_iff.mpr (.inr hl))))
  · rwa [toUpper_eq_self hl]

end SchemaProjection.Text
