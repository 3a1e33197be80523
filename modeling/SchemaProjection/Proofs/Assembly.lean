import SchemaProjection.Assembly
import SchemaProjection.Proofs.Synthesis

namespace SchemaProjection

variable {ε : Type} {key : ε → String} {synthesize : ε → Run OutputClass} {c : Configuration}
  {domain : Domain} {s : Schema} {u : OutputUnit}

/-- The loop over the entities. The names of the classes before the first are those that `owners`
is about. -/
theorem assembleClasses_eq_ok_iff {owners : List (String × String)} {es : List ε}
    {classes : List OutputClass} :
    (assembleClasses key synthesize owners es).outcome = .ok classes ↔
      List.Forall₂ (fun e cls => (synthesize e).outcome = .ok cls) es classes ∧
        Fresh (owners.map (·.1)) (classes.map (·.name)) := by
  induction es generalizing owners classes with
  | nil =>
    rw [assembleClasses, Run.outcome_pure, List.forall₂_nil_left_iff, Except.ok.injEq]
    constructor
    · rintro rfl
      exact ⟨rfl, fresh_nil⟩
    · rintro ⟨rfl, -⟩
      rfl
  | cons e es ih =>
    rw [assembleClasses, Run.outcome_bind, Outcome.bind_eq_ok_iff, List.forall₂_cons_left_iff]
    constructor
    · rintro ⟨cls, hs, h⟩
      cases hl : owners.lookup cls.name with
      | some first => simp [hl] at h
      | none =>
        simp only [hl, Run.outcome_bind, Outcome.bind_eq_ok_iff] at h
        obtain ⟨rest, hr, he⟩ := h
        obtain ⟨hf, hd⟩ := ih.mp hr
        cases he
        rw [List.map_cons, fresh_cons_iff]
        exact ⟨⟨cls, rest, hs, hf, rfl⟩, lookup_eq_none_iff_notMem.mp hl, hd⟩
    · rintro ⟨⟨cls, rest, hs, hf, rfl⟩, hd⟩
      rw [List.map_cons, fresh_cons_iff] at hd
      refine ⟨cls, hs, ?_⟩
      simp only [lookup_eq_none_iff_notMem.mpr hd.1, Run.outcome_bind, Outcome.bind_eq_ok_iff]
      exact ⟨rest, ih.mpr ⟨hf, hd.2⟩, rfl⟩

/-- The names of the classes with the keys of their entities, the last one first. -/
def takenNames (key : ε → String) (es : List ε) (classes : List OutputClass) :
    List (String × String) :=
  (List.zipWith (fun e cls => (cls.name, key e)) es classes).reverse

theorem map_fst_takenNames {R : ε → OutputClass → Prop} {es : List ε} {classes : List OutputClass}
    (h : List.Forall₂ R es classes) :
    (takenNames key es classes).map (·.1) = (classes.map (·.name)).reverse := by
  rw [takenNames, List.map_reverse]
  exact congrArg List.reverse (Outcome.map_zipWith_of_forall₂ h fun _ _ => rfl)

theorem assembleClasses_append {owners : List (String × String)} {before : List ε}
    {classes : List OutputClass}
    (hmade : List.Forall₂ (fun e cls => (synthesize e).outcome = .ok cls) before classes)
    (hfresh : Fresh (owners.map (·.1)) (classes.map (·.name))) (rest : List ε) :
    assembleClasses key synthesize owners (before ++ rest) =
      ⟨before.flatMap (fun e => (synthesize e).events) ++
          (assembleClasses key synthesize (takenNames key before classes ++ owners) rest).events,
        (assembleClasses key synthesize (takenNames key before classes ++ owners) rest).outcome.map
          (classes ++ ·)⟩ := by
  induction hmade generalizing owners with
  | nil =>
    change assembleClasses key synthesize owners rest = ⟨_, Except.map id _⟩
    rw [Except.map_id]
    rfl
  | @cons e cls before classes he _ ih =>
    rw [List.map_cons, fresh_cons_iff] at hfresh
    obtain ⟨hnew, hfresh⟩ := hfresh
    have hrest := @ih ((cls.name, key e) :: owners) hfresh
    have htaken : takenNames key (e :: before) (cls :: classes) ++ owners =
        takenNames key before classes ++ (cls.name, key e) :: owners := by
      simp [takenNames]
    rw [List.cons_append, assembleClasses, htaken]
    cases hrun : synthesize e with
    | mk events outcome =>
      rw [hrun] at he
      cases he
      rw [Run.ok_bind]
      simp only [lookup_eq_none_iff_notMem.mpr hnew]
      rw [hrest, List.flatMap_cons, hrun, List.append_assoc]
      cases assembleClasses key synthesize
          (takenNames key before classes ++ (cls.name, key e) :: owners) rest with
      | mk events outcome =>
        cases outcome with
        | error err => rfl
        | ok made =>
          change Run.mk (_ ++ ((_ ++ events) ++ [])) _ = _
          rw [List.append_nil]
          rfl

theorem assembleClasses_map {δ : Type} (f : δ → ε) (owners : List (String × String))
    (xs : List δ) :
    assembleClasses key synthesize owners (xs.map f) =
      assembleClasses (fun x => key (f x)) (fun x => synthesize (f x)) owners xs := by
  induction xs generalizing owners with
  | nil => rfl
  | cons x xs ih =>
    rw [List.map_cons, assembleClasses, assembleClasses]
    simp only [ih]

theorem assembleClasses_congr {δ : Type} {key' : δ → String} {synthesize' : δ → Run OutputClass}
    {xs : List ε} {ys : List δ}
    (h : xs.map (fun x => (key x, synthesize x)) = ys.map fun y => (key' y, synthesize' y))
    (owners : List (String × String)) :
    assembleClasses key synthesize owners xs = assembleClasses key' synthesize' owners ys := by
  have hpairs := congrArg (assembleClasses Prod.fst Prod.snd owners) h
  rwa [assembleClasses_map, assembleClasses_map] at hpairs

theorem assemble_eq_ok_iff {es : List ε} :
    (assemble c domain key synthesize es).outcome = .ok u ↔
      es ≠ [] ∧ List.Forall₂ (fun e cls => (synthesize e).outcome = .ok cls) es u.classes ∧
        (u.classes.map (·.name)).Nodup ∧ u.domain = domain ∧ u.package = c.packageSegments := by
  rw [assemble]
  cases es with
  | nil => simp
  | cons e es =>
    simp only [List.isEmpty_cons, Bool.false_eq_true, if_false, Run.outcome_bind,
      Run.outcome_log, Outcome.bind_eq_ok_iff, assembleClasses_eq_ok_iff]
    obtain ⟨d, package, classes⟩ := u
    constructor
    · rintro ⟨cs, ⟨hf, hd⟩, _, -, h⟩
      cases h
      exact ⟨List.cons_ne_nil _ _, hf, fresh_nil_iff.mp hd, rfl, rfl⟩
    · rintro ⟨-, hf, hd, rfl, rfl⟩
      exact ⟨classes, ⟨hf, fresh_nil_iff.mpr hd⟩, (), trivial, rfl⟩

theorem CustomFieldType.outcome_run (c : Configuration) (t : CustomFieldType) :
    (t.run c).outcome = t.synthesize c := by
  rw [CustomFieldType.run]
  cases t.synthesize c <;> rfl

theorem ProductType.outcome_run (s : Schema) (c : Configuration) (p : ProductType) :
    (p.run s c).outcome = p.synthesize s c := by
  rw [ProductType.run]
  cases p.synthesize s c <;> rfl

theorem assembleCustomFields_eq_ok_iff {ts : List CustomFieldType} :
    (assembleCustomFields c ts).outcome = .ok u ↔
      ts ≠ [] ∧ List.Forall₂ (fun t cls => t.synthesize c = .ok cls) ts u.classes ∧
        (u.classes.map (·.name)).Nodup ∧ u.domain = .customFields ∧
        u.package = c.packageSegments := by
  rw [assembleCustomFields]
  simp only [assemble_eq_ok_iff, CustomFieldType.outcome_run]

theorem assembleVariantAttributes_eq_ok_iff {ps : List ProductType} :
    (assembleVariantAttributes s c ps).outcome = .ok u ↔
      ps ≠ [] ∧ List.Forall₂ (fun p cls => p.synthesize s c = .ok cls) ps u.classes ∧
        (u.classes.map (·.name)).Nodup ∧ u.domain = .variantAttributes ∧
        u.package = c.packageSegments := by
  rw [assembleVariantAttributes]
  simp only [assemble_eq_ok_iff, ProductType.outcome_run]

theorem OutputUnit.outcome_logFallbacks (u : OutputUnit) : u.logFallbacks.outcome = .ok () := by
  rw [logFallbacks, Run.forM_log]

theorem Schema.outcome_customFieldsUnit (s : Schema) (c : Configuration) :
    (s.customFieldsUnit c).outcome = (assembleCustomFields c s.types).outcome := by
  rw [customFieldsUnit]
  cases h : (assembleCustomFields c s.types).outcome with
  | error e =>
    rw [Run.outcome_bind, h]
    rfl
  | ok u => simp [h, OutputUnit.outcome_logFallbacks]

theorem Schema.outcome_variantAttributesUnit (s : Schema) (c : Configuration) :
    (s.variantAttributesUnit c).outcome =
      (assembleVariantAttributes s c s.productTypes).outcome := by
  rw [variantAttributesUnit]
  cases h : (assembleVariantAttributes s c s.productTypes).outcome with
  | error e =>
    rw [Run.outcome_bind, h]
    rfl
  | ok u => simp [h, OutputUnit.outcome_logFallbacks]

end SchemaProjection
