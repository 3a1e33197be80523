import SchemaProjection.Naming
import SchemaProjection.Proofs.Outcome

namespace SchemaProjection

variable {role : NameRole} {entity : Identity} {name n raw : String} {c : Configuration}
  {domain : Domain}

theorem checkName_eq_ok_iff :
    checkName role entity name = .ok n ↔ Identifier.isIdentifier name = true ∧ n = name := by
  rw [checkName]
  split
  next h => simp [h, eq_comm]
  next h => simp [h]

theorem checkName_of_invalid (h : ¬ Identifier.isIdentifier name = true) :
    checkName role entity name = .error (.invalidIdentifier role name entity.key) :=
  if_neg h

theorem checkClassName_eq_ok_iff :
    checkClassName entity name = .ok n ↔
      Identifier.isKeyword name = false ∧ Identifier.isIdentifier name = true ∧ n = name := by
  rw [checkClassName]
  split
  next h => simp [h]
  next h => simp [h, checkName_eq_ok_iff]

theorem exists_invalid_of_checkClassName {e : GenerationError}
    (h : checkClassName entity name = .error e) :
    ∃ text, e = .invalidIdentifier .className text entity.key := by
  rw [checkClassName] at h
  split at h
  next => exact ⟨name, (Except.error.inj h).symm⟩
  next =>
    rw [checkName] at h
    split at h
    next => cases h
    next => exact ⟨name, (Except.error.inj h).symm⟩

theorem ends_append (a stem b : String) :
    a.toList <+: (a ++ stem ++ b).toList ∧ b.toList <:+ (a ++ stem ++ b).toList := by
  rw [String.toList_append, String.toList_append]
  refine ⟨?_, List.suffix_append _ _⟩
  rw [List.append_assoc]
  exact List.prefix_append _ _

namespace Configuration

/-- The class name before its check: an override, or else the default name unless nothing of the
seed can stand in it. -/
def chosenClassName (c : Configuration) (domain : Domain) (entity : Identity) : Option String :=
  ((c.overridesFor domain entity).bind (·.className)).or
    (if (Text.pascalCase entity.seed).isEmpty then none
     else some (domain.defaultClassName (Text.pascalCase entity.seed)))

/-- The field name before its check. -/
def chosenFieldName (c : Configuration) (domain : Domain) (entity : Identity) (raw : String) :
    String :=
  ((c.overridesFor domain entity).bind (·.fields.get? raw)).getD (Identifier.sanitize raw)

theorem className_eq_elim (c : Configuration) (domain : Domain) (entity : Identity) :
    c.className domain entity =
      (c.chosenClassName domain entity).elim
        (.error (.invalidIdentifier .className entity.seed entity.key))
        (checkClassName entity) := by
  rw [className, chosenClassName]
  cases (c.overridesFor domain entity).bind (·.className) with
  | some name => rfl
  | none =>
    dsimp only
    split <;> rfl

theorem className_eq_ok_iff :
    c.className domain entity = .ok n ↔
      c.chosenClassName domain entity = some n ∧ Identifier.isIdentifier n = true ∧
        Identifier.isKeyword n = false := by
  rw [className_eq_elim]
  cases c.chosenClassName domain entity with
  | none => simp
  | some name =>
    rw [Option.elim_some, checkClassName_eq_ok_iff, Option.some.injEq]
    constructor
    · rintro ⟨hkeyword, hident, rfl⟩
      exact ⟨rfl, hident, hkeyword⟩
    · rintro ⟨rfl, hident, hkeyword⟩
      exact ⟨hkeyword, hident, rfl⟩

theorem exists_invalid_of_className {e : GenerationError}
    (h : c.className domain entity = .error e) :
    ∃ text, e = .invalidIdentifier .className text entity.key := by
  rw [className_eq_elim] at h
  cases hname : c.chosenClassName domain entity with
  | none =>
    rw [hname] at h
    exact ⟨entity.seed, (Except.error.inj h).symm⟩
  | some name =>
    rw [hname] at h
    exact exists_invalid_of_checkClassName h

theorem fieldName_eq_ok_iff :
    c.fieldName domain entity raw = .ok n ↔
      Identifier.isIdentifier (c.chosenFieldName domain entity raw) = true ∧
        n = c.chosenFieldName domain entity raw :=
  checkName_eq_ok_iff

theorem checked_className (h : c.className domain entity = .ok n) :
    checkClassName entity n = .ok n := by
  have of_check {name : String} (h : checkClassName entity name = .ok n) :
      checkClassName entity n = .ok n := by
    obtain ⟨-, -, he⟩ := checkClassName_eq_ok_iff.mp h
    rwa [← he] at h
  rw [className] at h
  split at h
  next name _ => exact of_check h
  next =>
    dsimp only at h
    split at h
    next => cases h
    next => exact of_check h

theorem isIdentifier_className (h : c.className domain entity = .ok n) :
    Identifier.isIdentifier n = true :=
  (checkClassName_eq_ok_iff.mp (checked_className h)).2.1

theorem isKeyword_eq_false_of_className (h : c.className domain entity = .ok n) :
    Identifier.isKeyword n = false :=
  (checkClassName_eq_ok_iff.mp (checked_className h)).1

theorem className_of_default (hd : (c.overridesFor domain entity).bind (·.className) = none)
    (h : c.className domain entity = .ok n) :
    n = domain.defaultClassName (Text.pascalCase entity.seed) := by
  rw [className, hd] at h
  dsimp only at h
  split at h
  next => cases h
  next => exact (checkClassName_eq_ok_iff.mp h).2.2

theorem pascalCase_ne_empty_of_default
    (hd : (c.overridesFor domain entity).bind (·.className) = none)
    (h : c.className domain entity = .ok n) : Text.pascalCase entity.seed ≠ "" := by
  rw [className, hd] at h
  dsimp only at h
  split at h
  next => cases h
  next hs => exact mt String.isEmpty_iff.mpr hs

theorem isIdentifier_fieldName (h : c.fieldName domain entity raw = .ok n) :
    Identifier.isIdentifier n = true := by
  obtain ⟨hi, rfl⟩ := checkName_eq_ok_iff.mp h
  exact hi

end Configuration

end SchemaProjection
