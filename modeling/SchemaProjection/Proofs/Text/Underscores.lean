import SchemaProjection.Proofs.Text.SnakeCase

namespace SchemaProjection.Text

variable {cs : List Char} {c d : Char} {last : Option Char}

/-- How often an underscore comes right after another one. -/
def doubledUnderscores : List Char → Nat
  | c :: d :: cs => (if c = '_' ∧ d = '_' then 1 else 0) + doubledUnderscores (d :: cs)
  | _ => 0

theorem toLower_eq_underscore_iff : c.toLower = '_' ↔ c = '_' := by
  by_cases hu : c.isUpper = true
  · have hlower : c.toLower.isLower = true := isLower_toLower hu
    refine iff_of_false ?_ ?_
    · intro he
      rw [he] at hlower
      exact absurd hlower (by decide)
    · rintro rfl
      exact absurd hu (by decide)
  · rw [toLower_eq_self hu]

theorem isUppercase_of_toLower (h : isUppercase c.toLower = true) : isUppercase c = true := by
  by_cases hu : c.isUpper = true
  · rw [isUppercase, hu, Bool.true_or]
  · rwa [toLower_eq_self hu] at h

theorem ne_underscore_of_isUppercase (h : isUppercase c = true) : c ≠ '_' := by
  rintro rfl
  exact absurd h (by decide)

def mark (last : Option Char) (c : Char) : List Char :=
  if isUppercase c && last.any (· != '_') then ['_'] else []

theorem snakeFrom_cons (last : Option Char) (c : Char) (cs : List Char) :
    snakeFrom last (c :: cs) = mark last c ++ c.toLower :: snakeFrom (some c.toLower) cs := by
  rw [snakeFrom, mark]
  split <;> rfl

theorem mark_cases (last : Option Char) (c : Char) :
    mark last c = [] ∨ mark last c = ['_'] ∧ last ≠ some '_' ∧ c ≠ '_' := by
  rw [mark]
  split
  next h =>
    rw [Bool.and_eq_true] at h
    refine .inr ⟨rfl, ?_, ne_underscore_of_isUppercase h.1⟩
    rintro rfl
    exact absurd h.2 (by decide)
  next => exact .inl rfl

theorem mark_beside_underscore (h : last = some '_' ∨ c = '_') : mark last c = [] :=
  (mark_cases last c).resolve_right fun ⟨_, hlast, hc⟩ => h.elim hlast hc

theorem mark_toLower (h : mark last c = []) : mark last c.toLower = [] := by
  rw [mark] at h ⊢
  split
  next hc =>
    rw [Bool.and_eq_true] at hc
    rw [if_pos (Bool.and_eq_true_iff.mpr ⟨isUppercase_of_toLower hc.1, hc.2⟩)] at h
    cases h
  next => rfl

theorem snakeFrom_snakeFrom (last : Option Char) (cs : List Char) :
    snakeFrom last (snakeFrom last cs) = snakeFrom last cs := by
  induction cs generalizing last with
  | nil => rfl
  | cons c cs ih =>
    rw [snakeFrom_cons]
    obtain hm | ⟨hm, -, -⟩ := mark_cases last c
    · rw [hm, List.nil_append, snakeFrom_cons, mark_toLower hm, List.nil_append, toLower_toLower,
        ih]
    · -- the second time there is an underscore already
      have hmark : mark (some '_'.toLower) c.toLower = [] := mark_beside_underscore (.inl rfl)
      rw [hm, List.singleton_append, snakeFrom_cons, mark_beside_underscore (.inr rfl),
        snakeFrom_cons, hmark, toLower_toLower, ih]
      rfl

theorem filter_snakeFrom (last : Option Char) (cs : List Char) :
    (snakeFrom last cs).filter (· ≠ '_') = (cs.filter (· ≠ '_')).map Char.toLower := by
  induction cs generalizing last with
  | nil => rfl
  | cons c cs ih =>
    have hmark : (mark last c).filter (· ≠ '_') = [] := by
      obtain hm | ⟨hm, -, -⟩ := mark_cases last c <;> rw [hm] <;> rfl
    rw [snakeFrom_cons, List.filter_append, hmark, List.nil_append, List.filter_cons,
      List.filter_cons, ih]
    simp only [ne_eq, toLower_eq_underscore_iff]
    split <;> rfl

theorem sublist_snakeFrom (last : Option Char) (cs : List Char) :
    (cs.map Char.toLower).Sublist (snakeFrom last cs) := by
  induction cs generalizing last with
  | nil => exact List.nil_sublist _
  | cons c cs ih =>
    rw [snakeFrom_cons, List.map_cons]
    exact ((ih _).cons_cons _).trans (List.sublist_append_right _ _)

theorem doubledUnderscores_cons_congr (h : c = '_' ↔ d = '_') (cs : List Char) :
    doubledUnderscores (c :: cs) = doubledUnderscores (d :: cs) := by
  cases cs with
  | nil => rfl
  | cons x xs => simp only [doubledUnderscores, h]

/-- The character written last is counted with what follows it, in the text as well as in its snake
case. -/
theorem doubledUnderscores_snakeFrom (c : Char) (cs : List Char) :
    doubledUnderscores (c :: snakeFrom (some c) cs) = doubledUnderscores (c :: cs) := by
  induction cs generalizing c with
  | nil => rfl
  | cons d cs ih =>
    have hd := doubledUnderscores_cons_congr (toLower_eq_underscore_iff (c := d)) cs
    rw [snakeFrom_cons]
    obtain hm | ⟨hm, hc, hne⟩ := mark_cases (some c) d
    · simp only [hm, List.nil_append, doubledUnderscores, ih, hd, toLower_eq_underscore_iff]
    · -- neither side of the mark is an underscore, so it makes no pair and breaks none
      have hc' : c ≠ '_' := fun he => hc (congrArg some he)
      simp only [hm, List.singleton_append, doubledUnderscores, ih, hd, hne, hc',
        toLower_eq_underscore_iff, false_and, and_false, if_false, Nat.zero_add]

theorem doubledUnderscores_snakeFrom_none (cs : List Char) :
    doubledUnderscores (snakeFrom none cs) = doubledUnderscores cs := by
  cases cs with
  | nil => rfl
  | cons c cs =>
    rw [snakeFrom_none_cons, doubledUnderscores_snakeFrom,
      doubledUnderscores_cons_congr toLower_eq_underscore_iff]

/-- Snake case leaves no letter raised. But for its letters a text is kept, with underscores put in
that never stand beside others, and a text in snake case stays as it is. The upper-case form tells
apart as much as snake case does. -/
theorem snakeCase_lowers_and_marks (s : String) :
    snakeCase (snakeCase s) = snakeCase s ∧
    (snakeCase s).toList.any Char.isUpper = false ∧
    (snakeCase s).toList.filter (· ≠ '_') = (s.toList.filter (· ≠ '_')).map Char.toLower ∧
    (s.toList.map Char.toLower).Sublist (snakeCase s).toList ∧
    doubledUnderscores (snakeCase s).toList = doubledUnderscores s.toList ∧
    ∀ other, upperSnakeCase s = upperSnakeCase other ↔ snakeCase s = snakeCase other := by
  have hchars : (snakeCase s).toList = snakeFrom none s.toList := String.toList_ofList
  refine ⟨?_, ?_, ?_, ?_, ?_, fun other => upperSnakeCase_eq_iff⟩
  · rw [snakeCase, hchars, snakeFrom_snakeFrom]
    rfl
  · rw [List.any_eq_false]
    exact fun x hx => ne_true_of_eq_false (isUpper_eq_false_of_mem_snakeCase s x hx)
  · rw [hchars, filter_snakeFrom]
  · rw [hchars]
    exact sublist_snakeFrom none s.toList
  · rw [hchars, doubledUnderscores_snakeFrom_none]

example : snakeCase "aÉ_Bc__D" = "a_É_bc__d" ∧ doubledUnderscores "aÉ_Bc__D".toList = 1 := by
  decide +kernel

end SchemaProjection.Text
