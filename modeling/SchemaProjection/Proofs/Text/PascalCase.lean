import SchemaProjection.Proofs.Text.SnakeCase

namespace SchemaProjection.Text

variable {cs as bs : List Char} {c last : Char}

theorem isAlphanum_of_mem_pascalFrom (atStart : Bool) (cs : List Char) :
    ∀ x ∈ pascalFrom atStart cs, x.isAlphanum = true := by
  induction cs generalizing atStart with
  | nil => simp [pascalFrom]
  | cons c cs ih =>
    rw [pascalFrom]
    split
    next hc =>
      refine List.forall_mem_cons.mpr ⟨?_, ih false⟩
      cases atStart with
      | true => exact isAlphanum_toUpper hc
      | false => exact hc
    next => exact ih true

theorem isAlphanum_of_mem_pascalCase (s : String) :
    ∀ x ∈ (pascalCase s).toList, x.isAlphanum = true := by
  rw [pascalCase, String.toList_ofList]
  exact isAlphanum_of_mem_pascalFrom true s.toList

theorem pascalFrom_eq_nil_iff {atStart : Bool} :
    pascalFrom atStart cs = [] ↔ ∀ x ∈ cs, ¬ x.isAlphanum = true := by
  induction cs generalizing atStart with
  | nil => simp [pascalFrom]
  | cons c cs ih =>
    rw [pascalFrom, List.forall_mem_cons]
    split
    next hc => simp [hc]
    next hc => simp [hc, ih]

theorem pascalCase_eq_empty_iff {s : String} :
    pascalCase s = "" ↔ ∀ x ∈ s.toList, ¬ x.isAlphanum = true := by
  rw [pascalCase, String.ofList_eq_empty_iff, pascalFrom_eq_nil_iff]

theorem ne_underscore_of_isAlphanum (h : c.isAlphanum = true) : c ≠ '_' := by
  rintro rfl
  exact absurd h (by decide)

theorem isWordChar_of_isAlphanum (h : c.isAlphanum = true) : Identifier.isWordChar c = true := by
  rw [Identifier.isWordChar, h, Bool.true_or]

def unsnake : List Char → List Char
  | '_' :: c :: cs => c.toUpper :: unsnake cs
  | c :: cs => c :: unsnake cs
  | [] => []

theorem unsnake_cons_of_ne (h : c ≠ '_') (cs : List Char) : unsnake (c :: cs) = c :: unsnake cs := by
  cases cs <;> simp [unsnake, h]

/-- Between letters and digits an underscore stands before each raised letter, and before nothing
else. -/
theorem unsnake_snakeFrom (h : ∀ x ∈ cs, x.isAlphanum = true) (hl : last ≠ '_') :
    unsnake (snakeFrom (some last) cs) = cs := by
  induction cs generalizing last with
  | nil => rfl
  | cons c cs ih =>
    obtain ⟨hc, hcs⟩ := List.forall_mem_cons.mp h
    have hlast : (some last).any (· != '_') = true := by simpa using hl
    have hne : c.toLower ≠ '_' := ne_underscore_of_isAlphanum (isAlphanum_toLower hc)
    rw [snakeFrom, isUppercase_eq_isUpper (isWordChar_of_isAlphanum hc), hlast, Bool.and_true]
    by_cases hu : c.isUpper = true
    · rw [if_pos hu, unsnake, toUpper_toLower hu, ih hcs hne]
    · rw [if_neg hu, unsnake_cons_of_ne hne, ih hcs hne, toLower_eq_self hu]

theorem snakeFrom_cons_inj (hc : c.toLower ≠ '_') (ha : ∀ x ∈ as, x.isAlphanum = true)
    (hb : ∀ x ∈ bs, x.isAlphanum = true) :
    snakeFrom none (c :: as) = snakeFrom none (c :: bs) ↔ as = bs := by
  constructor
  · intro h
    rw [snakeFrom_none_cons, snakeFrom_none_cons] at h
    have hs := congrArg unsnake (List.cons.inj h).2
    rwa [unsnake_snakeFrom ha hc, unsnake_snakeFrom hb hc] at hs
  · rintro rfl
    rfl

end SchemaProjection.Text
