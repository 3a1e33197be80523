import SchemaProjection.Identifier
import SchemaProjection.Proofs.Text.Casing

namespace SchemaProjection.Text

open Identifier

variable {cs : List Char} {c : Char} {last : Option Char}

theorem isWordChar_toLower (h : isWordChar c = true) : isWordChar c.toLower = true := by
  simp only [isWordChar, Bool.or_eq_true, beq_iff_eq] at h ⊢
  cases h with
  | inl h => exact .inl (isAlphanum_toLower h)
  | inr h =>
    right
    subst h
    decide

theorem isWordChar_toUpper (h : isWordChar c = true) : isWordChar c.toUpper = true := by
  simp only [isWordChar, Bool.or_eq_true, beq_iff_eq] at h ⊢
  cases h with
  | inl h => exact .inl (isAlphanum_toUpper h)
  | inr h =>
    right
    subst h
    decide

theorem toNat_lt_of_isWordChar (h : isWordChar c = true) : c.toNat < 128 := by
  rw [isWordChar, Bool.or_eq_true, beq_iff_eq, isAlphanum_iff, isAlpha_iff, isUpper_iff,
    isLower_iff, isDigit_iff] at h
  obtain h | rfl := h
  · omega
  · decide

theorem isUppercase_eq_isUpper (h : isWordChar c = true) : isUppercase c = c.isUpper := by
  have hn : ¬ 128 ≤ c.toNat := Nat.not_le.mpr (toNat_lt_of_isWordChar h)
  simp [isUppercase, hn]

theorem snakeFrom_none_cons (c : Char) (cs : List Char) :
    snakeFrom none (c :: cs) = c.toLower :: snakeFrom (some c.toLower) cs := by
  simp [snakeFrom]

theorem isWordChar_of_mem_snakeFrom (h : ∀ x ∈ cs, isWordChar x = true) :
    ∀ x ∈ snakeFrom last cs, isWordChar x = true := by
  induction cs generalizing last with
  | nil => simp [snakeFrom]
  | cons c cs ih =>
    have hc := isWordChar_toLower (h c List.mem_cons_self)
    have hs : ∀ x ∈ snakeFrom (some c.toLower) cs, isWordChar x = true :=
      ih fun x hx => h x (List.mem_cons_of_mem _ hx)
    rw [snakeFrom]
    split
    · exact List.forall_mem_cons.mpr ⟨by decide, List.forall_mem_cons.mpr ⟨hc, hs⟩⟩
    · exact List.forall_mem_cons.mpr ⟨hc, hs⟩

theorem isUpper_eq_false_of_mem_snakeFrom (last : Option Char) (cs : List Char) :
    ∀ x ∈ snakeFrom last cs, x.isUpper = false := by
  induction cs generalizing last with
  | nil => simp [snakeFrom]
  | cons c cs ih =>
    have hc := isUpper_toLower_eq_false c
    rw [snakeFrom]
    split
    · exact List.forall_mem_cons.mpr ⟨by decide, List.forall_mem_cons.mpr ⟨hc, ih _⟩⟩
    · exact List.forall_mem_cons.mpr ⟨hc, ih _⟩

theorem snakeFrom_eq_self (h : ∀ x ∈ cs, isUppercase x = false) : snakeFrom last cs = cs := by
  induction cs generalizing last with
  | nil => rfl
  | cons c cs ih =>
    have hc := h c List.mem_cons_self
    have hu : ¬ c.isUpper = true := by
      intro hu
      rw [isUppercase, hu, Bool.true_or] at hc
      cases hc
    rw [snakeFrom, hc, Bool.false_and, if_neg Bool.false_ne_true,
      toLower_eq_self hu, ih fun x hx => h x (List.mem_cons_of_mem _ hx)]

variable {name : String}

theorem isWordChar_of_mem_snakeCase (h : ∀ x ∈ name.toList, isWordChar x = true) :
    ∀ x ∈ (snakeCase name).toList, isWordChar x = true := by
  rw [snakeCase, String.toList_ofList]
  exact isWordChar_of_mem_snakeFrom h

theorem isUpper_eq_false_of_mem_snakeCase (name : String) :
    ∀ x ∈ (snakeCase name).toList, x.isUpper = false := by
  rw [snakeCase, String.toList_ofList]
  exact isUpper_eq_false_of_mem_snakeFrom _ _

theorem snakeCase_eq_self_iff (h : ∀ x ∈ name.toList, isWordChar x = true) :
    snakeCase name = name ↔ ∀ x ∈ name.toList, x.isUpper = false := by
  constructor
  · intro he
    rw [← he]
    exact isUpper_eq_false_of_mem_snakeCase name
  · intro hu
    rw [snakeCase, snakeFrom_eq_self fun x hx => (isUppercase_eq_isUpper (h x hx)).trans (hu x hx),
      String.ofList_toList]

theorem toList_upperSnakeCase (name : String) :
    (upperSnakeCase name).toList = (snakeCase name).toList.map Char.toUpper := by
  rw [upperSnakeCase, snakeCase, String.toList_ofList, String.toList_ofList]

theorem map_toLower_upperSnakeCase (name : String) :
    (upperSnakeCase name).toList.map Char.toLower = (snakeCase name).toList := by
  rw [toList_upperSnakeCase, List.map_map]
  have hsame : ∀ x ∈ (snakeCase name).toList, (Char.toLower ∘ Char.toUpper) x = id x := by
    intro x hx
    have hu := isUpper_eq_false_of_mem_snakeCase name x hx
    rw [Function.comp_apply, toLower_toUpper (ne_true_of_eq_false hu), id]
  rw [List.map_congr_left hsame, List.map_id]

theorem upperSnakeCase_eq_iff {a b : String} :
    upperSnakeCase a = upperSnakeCase b ↔ snakeCase a = snakeCase b := by
  constructor
  · intro h
    apply String.toList_injective
    rw [← map_toLower_upperSnakeCase a, ← map_toLower_upperSnakeCase b, h]
  · intro h
    apply String.toList_injective
    rw [toList_upperSnakeCase, toList_upperSnakeCase, h]

end SchemaProjection.Text
