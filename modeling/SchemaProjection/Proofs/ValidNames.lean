import SchemaProjection.Proofs.Identifier
import SchemaProjection.Proofs.Naming
import SchemaProjection.Proofs.Text.PascalCase

namespace SchemaProjection

namespace Identifier

open Text

variable {c : Char} {cs : List Char} {name raw stem : String} {domain : Domain}

/-- A text of ASCII letters, digits and underscores that has no digit first and is more than one
underscore. -/
structure IsPlain (name : String) : Prop where
  chars : ∀ c ∈ name.toList, c.isAlphanum = true ∨ c = '_'
  notEmpty : name ≠ ""
  notUnderscore : name ≠ "_"
  noDigitFirst : ∀ c, name.toList.head? = some c → c.isDigit = false

theorem isAlpha_eq_not_isDigit (h : c.isAlphanum = true) : c.isAlpha = !c.isDigit := by
  have hboth : ¬ (c.isAlpha = true ∧ c.isDigit = true) := by
    rw [isAlpha_iff, isUpper_iff, isLower_iff, isDigit_iff]
    omega
  rw [isAlphanum_iff] at h
  cases ha : c.isAlpha <;> cases hd : c.isDigit <;> simp_all

theorem isWordChar_iff : isWordChar c = true ↔ c.isAlphanum = true ∨ c = '_' := by
  rw [isWordChar, Bool.or_eq_true, beq_iff_eq]

theorem isIdentifierChars_cons_iff :
    isIdentifierChars (c :: cs) = true ↔
      (∀ x ∈ c :: cs, isWordChar x = true) ∧ c :: cs ≠ ['_'] ∧ c.isDigit = false := by
  rw [isIdentifierChars, Bool.and_eq_true, List.all_eq_true, List.forall_mem_cons, isWordChar_iff]
  by_cases hc : c.isAlphanum = true
  · have hne := ne_underscore_of_isAlphanum hc
    simp [hc, hne, isAlpha_eq_not_isDigit hc, and_comm]
  · by_cases hu : c = '_'
    · subst hu
      cases cs <;> simp
    · have ha : ¬ c.isAlpha = true := fun ha => hc (isAlphanum_iff.mpr (.inl ha))
      simp [hc, hu, ha]

theorem isIdentifier_iff_isPlain : isIdentifier name = true ↔ IsPlain name := by
  have hempty : name = "" ↔ name.toList = [] := String.toList_eq_nil_iff.symm
  have hunderscore : name = "_" ↔ name.toList = ['_'] := String.toList_inj.symm
  rw [isIdentifier]
  cases hcs : name.toList with
  | nil => exact iff_of_false Bool.false_ne_true fun h => h.notEmpty (hempty.mpr hcs)
  | cons c cs =>
    rw [isIdentifierChars_cons_iff, ← hcs]
    simp only [isWordChar_iff]
    constructor
    · rintro ⟨hchars, hne, hdigit⟩
      refine ⟨hchars, fun he => ?_, mt hunderscore.mp hne, ?_⟩
      · rw [hempty.mp he] at hcs
        cases hcs
      · rw [hcs]
        rintro _ ⟨⟩
        exact hdigit
    · intro h
      exact ⟨h.chars, mt hunderscore.mpr h.notUnderscore, h.noDigitFirst c (by rw [hcs]; rfl)⟩

theorem isKeyword_eq_false_iff :
    isKeyword name = false ↔ name ∉ rawKeywords ++ reservedKeywords := by
  simp [isKeyword, List.mem_append, not_or]

/-- Every keyword has a small letter. -/
theorem isKeyword_eq_false_of_no_lower (h : ∀ x ∈ name.toList, x.isLower = false) :
    isKeyword name = false := by
  have hlower : ∀ k ∈ rawKeywords ++ reservedKeywords, k.toList.any Char.isLower = true := by
    decide +kernel
  rw [isKeyword_eq_false_iff]
  intro hk
  obtain ⟨x, hx, hxlower⟩ := List.any_eq_true.mp (hlower name hk)
  rw [h x hx] at hxlower
  cases hxlower

theorem isKeyword_upperSnakeCase_eq_false (name : String) :
    isKeyword (upperSnakeCase name) = false := by
  apply isKeyword_eq_false_of_no_lower
  rw [toList_upperSnakeCase, List.forall_mem_map]
  exact fun x _ => isLower_toUpper_eq_false x

section Sanitized

def substitute (c : Char) : Char :=
  if c.isAlphanum then c else '_'

theorem isWordChar_substitute (c : Char) : isWordChar (substitute c) = true := by
  rw [substitute, isWordChar_iff]
  split
  next hc => exact .inl hc
  next => exact .inr rfl

theorem substitute_eq_underscore_iff : substitute c = '_' ↔ ¬ c.isAlphanum = true := by
  rw [substitute]
  split
  next hc => simp [hc, ne_underscore_of_isAlphanum hc]
  next hc => simp [hc]

theorem isDigit_substitute (c : Char) : (substitute c).isDigit = c.isDigit := by
  rw [substitute]
  split
  next => rfl
  next hc =>
    rw [isAlphanum_iff, not_or] at hc
    rw [eq_false_of_ne_true hc.2]
    rfl

theorem sanitizeChars_cons (c : Char) (cs : List Char) :
    sanitizeChars (c :: cs) =
      if c.isDigit then '_' :: substitute c :: cs.map substitute
      else substitute c :: cs.map substitute := by
  rw [← isDigit_substitute]
  rfl

theorem isIdentifierChars_sanitizeChars_cons :
    isIdentifierChars (sanitizeChars (c :: cs)) = true ↔ cs = [] → c.isAlphanum = true := by
  have hchars : ∀ x ∈ substitute c :: cs.map substitute, isWordChar x = true := by
    rw [← List.map_cons, List.forall_mem_map]
    exact fun x _ => isWordChar_substitute x
  rw [sanitizeChars_cons]
  split
  next hd =>
    have hc : c.isAlphanum = true := isAlphanum_iff.mpr (.inr hd)
    refine iff_of_true (isIdentifierChars_cons_iff.mpr ⟨?_, by simp, rfl⟩) fun _ => hc
    exact List.forall_mem_cons.mpr ⟨rfl, hchars⟩
  next hd =>
    have hdigit : (substitute c).isDigit = false := by
      rw [isDigit_substitute, eq_false_of_ne_true hd]
    rw [isIdentifierChars_cons_iff, ne_eq, List.cons.injEq, substitute_eq_underscore_iff,
      List.map_eq_nil_iff]
    tauto

theorem isIdentifier_sanitize_iff :
    isIdentifier (sanitize raw) = true ↔
      raw ≠ "" ∧ ∀ c, raw.toList = [c] → c.isAlphanum = true := by
  rw [isIdentifier, sanitize, String.toList_ofList, ne_eq, ← String.toList_eq_nil_iff]
  cases raw.toList with
  | nil => simp [sanitizeChars, isIdentifierChars]
  | cons c cs =>
    rw [isIdentifierChars_sanitizeChars_cons]
    constructor
    · rintro h
      refine ⟨List.cons_ne_nil c cs, ?_⟩
      rintro _ ⟨⟩
      exact h rfl
    · rintro ⟨-, h⟩ rfl
      exact h c rfl

end Sanitized

section Default

theorem exists_toList_defaultClassName (domain : Domain)
    (h : ∀ x ∈ stem.toList, x.isAlphanum = true) :
    ∃ cs, (domain.defaultClassName stem).toList = 'T' :: cs ∧ ∀ x ∈ cs, x.isAlphanum = true := by
  have around (suffix : String) (hsuffix : suffix.toList.all Char.isAlphanum = true) :
      ∃ cs, ("Typed" ++ stem ++ suffix).toList = 'T' :: cs ∧ ∀ x ∈ cs, x.isAlphanum = true := by
    refine ⟨"yped".toList ++ stem.toList ++ suffix.toList, ?_, ?_⟩
    · rw [String.toList_append, String.toList_append]
      rfl
    · rw [List.forall_mem_append, List.forall_mem_append]
      exact ⟨⟨List.all_eq_true.mp rfl, h⟩, List.all_eq_true.mp hsuffix⟩
  cases domain with
  | customFields => exact around "Fields" rfl
  | variantAttributes => exact around "VariantAttributes" rfl

theorem isIdentifier_defaultClassName (domain : Domain)
    (h : ∀ x ∈ stem.toList, x.isAlphanum = true) :
    isIdentifier (domain.defaultClassName stem) = true := by
  obtain ⟨cs, hname, hcs⟩ := exists_toList_defaultClassName domain h
  have hchars : ∀ x ∈ 'T' :: cs, isWordChar x = true :=
    List.forall_mem_cons.mpr ⟨rfl, fun x hx => isWordChar_of_isAlphanum (hcs x hx)⟩
  rw [isIdentifier, hname, isIdentifierChars_cons_iff]
  exact ⟨hchars, by simp, rfl⟩

theorem isKeyword_defaultClassName_eq_false (domain : Domain)
    (h : ∀ x ∈ stem.toList, x.isAlphanum = true) :
    isKeyword (domain.defaultClassName stem) = false := by
  have hhead : ∀ k ∈ rawKeywords ++ reservedKeywords, k.toList.head? ≠ some 'T' := by
    decide +kernel
  obtain ⟨cs, hname, -⟩ := exists_toList_defaultClassName domain h
  rw [isKeyword_eq_false_iff]
  intro hk
  apply hhead _ hk
  rw [hname]
  rfl

end Default

end Identifier

namespace Configuration

open Identifier Text

variable {c : Configuration} {domain : Domain} {entity : Identity} {name raw n : String}

theorem exists_className_iff_of_override
    (h : (c.overridesFor domain entity).bind (·.className) = some name) :
    (∃ n, c.className domain entity = .ok n) ↔ IsPlain name ∧ isKeyword name = false := by
  have hchosen : c.chosenClassName domain entity = some name := by
    rw [chosenClassName, h]
    rfl
  simp only [className_eq_ok_iff, hchosen, Option.some.injEq, exists_eq_left',
    isIdentifier_iff_isPlain]

theorem exists_className_iff_of_default
    (h : (c.overridesFor domain entity).bind (·.className) = none) :
    (∃ n, c.className domain entity = .ok n) ↔ ∃ x ∈ entity.seed.toList, x.isAlphanum = true := by
  constructor
  · rintro ⟨n, hn⟩
    have hstem := mt pascalCase_eq_empty_iff.mpr (pascalCase_ne_empty_of_default h hn)
    push Not at hstem
    exact hstem
  · rintro ⟨x, hx, hletter⟩
    have hstem : pascalCase entity.seed ≠ "" :=
      fun he => pascalCase_eq_empty_iff.mp he x hx hletter
    have hchars := isAlphanum_of_mem_pascalCase entity.seed
    refine ⟨domain.defaultClassName (pascalCase entity.seed), className_eq_ok_iff.mpr ⟨?_, ?_, ?_⟩⟩
    · rw [chosenClassName, h, if_neg (mt String.isEmpty_iff.mp hstem)]
      rfl
    · exact isIdentifier_defaultClassName domain hchars
    · exact isKeyword_defaultClassName_eq_false domain hchars

theorem exists_fieldName_iff :
    (∃ n, c.fieldName domain entity raw = .ok n) ↔
      isIdentifier (c.chosenFieldName domain entity raw) = true := by
  simp [fieldName_eq_ok_iff]

/-- The constant of a valid field name is valid too, so its check never fails. -/
theorem constantName_eq_map (c : Configuration) (domain : Domain) (entity : Identity)
    (raw : String) :
    c.constantName domain entity raw = (c.fieldName domain entity raw).map upperSnakeCase := by
  rw [constantName]
  cases hn : c.fieldName domain entity raw with
  | error e => rfl
  | ok name =>
    have hi := isIdentifier_upperSnakeCase (isIdentifier_fieldName hn)
    rw [Outcome.ok_bind, checkName_eq_ok_iff.mpr ⟨hi, rfl⟩]
    rfl

theorem isPlain_constantName (h : c.constantName domain entity raw = .ok n) :
    IsPlain n ∧ isKeyword n = false := by
  rw [constantName_eq_map, Outcome.map_eq_ok_iff] at h
  obtain ⟨name, hname, rfl⟩ := h
  exact ⟨isIdentifier_iff_isPlain.mp (isIdentifier_upperSnakeCase (isIdentifier_fieldName hname)),
    isKeyword_upperSnakeCase_eq_false name⟩

/-- Each name is given exactly when it can be valid, and then it is. -/
theorem names_given_iff_valid (c : Configuration) (domain : Domain) (entity : Identity)
    (raw : String) :
    (∀ name, (c.overridesFor domain entity).bind (·.className) = some name →
      ((∃ n, c.className domain entity = .ok n) ↔ IsPlain name ∧ isKeyword name = false)) ∧
    ((c.overridesFor domain entity).bind (·.className) = none →
      ((∃ n, c.className domain entity = .ok n) ↔
        ∃ x ∈ entity.seed.toList, x.isAlphanum = true)) ∧
    (∀ name, (c.overridesFor domain entity).bind (·.fields.get? raw) = some name →
      ((∃ n, c.fieldName domain entity raw = .ok n) ↔ IsPlain name)) ∧
    ((c.overridesFor domain entity).bind (·.fields.get? raw) = none →
      ((∃ n, c.fieldName domain entity raw = .ok n) ↔
        raw ≠ "" ∧ ∀ x, raw.toList = [x] → x.isAlphanum = true)) ∧
    ((∃ n, c.constantName domain entity raw = .ok n) ↔
      ∃ n, c.fieldName domain entity raw = .ok n) ∧
    (∀ n, c.className domain entity = .ok n → IsPlain n ∧ isKeyword n = false) ∧
    (∀ n, c.fieldName domain entity raw = .ok n → IsPlain n) ∧
    ∀ n, c.constantName domain entity raw = .ok n → IsPlain n ∧ isKeyword n = false := by
  refine ⟨fun name => exists_className_iff_of_override, exists_className_iff_of_default,
    fun name h => ?_, fun h => ?_, ?_, fun n h => ?_, fun n h => ?_, fun n => isPlain_constantName⟩
  · rw [exists_fieldName_iff, chosenFieldName, h, Option.getD_some, isIdentifier_iff_isPlain]
  · rw [exists_fieldName_iff, chosenFieldName, h, Option.getD_none, isIdentifier_sanitize_iff]
  · rw [constantName_eq_map, Outcome.exists_map_eq_ok_iff]
  · exact ⟨isIdentifier_iff_isPlain.mp (isIdentifier_className h),
      isKeyword_eq_false_of_className h⟩
  · exact isIdentifier_iff_isPlain.mp (isIdentifier_fieldName h)

def misnamed : Configuration :=
  ({} : Configuration).applyAll
    [.customTypeClass "color" "Self", .customFieldName "color" "shade" "_"]

def color : Identity :=
  ⟨.customFieldType, "t-1", "color", "color"⟩

theorem names_given_misnamed :
    (¬ ∃ n, misnamed.className .customFields color = .ok n) ∧
    (∃ n, misnamed.className .variantAttributes color = .ok n) ∧
    (¬ ∃ n, misnamed.constantName .customFields color "shade" = .ok n) ∧
    (¬ ∃ n, misnamed.fieldName .customFields color "é" = .ok n) ∧
    misnamed.fieldName .customFields color "3" = .ok "_3" ∧ IsPlain "_3" := by
  obtain ⟨hclass, -, hfield, -, hconstant, -⟩ :=
    names_given_iff_valid misnamed .customFields color "shade"
  obtain ⟨-, hdefault, -⟩ := names_given_iff_valid misnamed .variantAttributes color "shade"
  obtain ⟨-, -, -, haccent, -⟩ := names_given_iff_valid misnamed .customFields color "é"
  obtain ⟨-, -, -, -, -, -, hdigit, -⟩ := names_given_iff_valid misnamed .customFields color "3"
  refine ⟨fun h => ?_, (hdefault rfl).mpr ⟨'c', by decide, rfl⟩, fun h => ?_, fun h => ?_, rfl,
    hdigit _ rfl⟩
  · exact absurd ((hclass _ rfl).mp h).2 (by decide)
  · exact ((hfield _ rfl).mp (hconstant.mp h)).notUnderscore rfl
  · exact absurd (((haccent rfl).mp h).2 'é' rfl) (by decide)

end Configuration

end SchemaProjection
