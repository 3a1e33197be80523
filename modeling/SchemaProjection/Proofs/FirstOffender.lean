import Mathlib.Data.Nat.Find
import Mathlib.Order.Bounds.Basic
import SchemaProjection.Proofs.Assembly

namespace SchemaProjection.FirstOffender

variable {ε : Type} {key : ε → String} {synthesize : ε → Except GenerationError OutputClass}
  {run : ε → Run OutputClass} {es before : List ε} {classes : List OutputClass} {cls : OutputClass}
  {e first : ε} {i j : Nat} {name : String} {err : GenerationError} {c : Configuration}
  {domain : Domain}

/-- The classes of the entities, in order, no two of one name. -/
structure AreClassesOf (synthesize : ε → Except GenerationError OutputClass) (es : List ε)
    (classes : List OutputClass) : Prop where
  each : List.Forall₂ (fun e cls => synthesize e = .ok cls) es classes
  names : (classes.map (·.name)).Nodup

def HasClassNamed (synthesize : ε → Except GenerationError OutputClass) (name : String) (e : ε) :
    Prop :=
  ∃ cls, synthesize e = .ok cls ∧ cls.name = name

/-- The entity at the place has no class, or its class has the name of the class of an earlier
entity. -/
def Offends (synthesize : ε → Except GenerationError OutputClass) (es : List ε) (i : Nat) : Prop :=
  ∃ e, es[i]? = some e ∧ ((∃ err, synthesize e = .error err) ∨
    ∃ cls, synthesize e = .ok cls ∧
      ∃ j < i, ∃ first, es[j]? = some first ∧ HasClassNamed synthesize cls.name first)

/-- Of the entities before the place `i`, the one at `j` and no other has a class of the name. -/
def IsOwner (synthesize : ε → Except GenerationError OutputClass) (es : List ε) (i : Nat)
    (name : String) (j : Nat) : Prop :=
  ∀ k, (k < i ∧ ∃ e, es[k]? = some e ∧ HasClassNamed synthesize name e) ↔ k = j

/-- What comes of assembling the entities. -/
structure InTurn (key : ε → String) (synthesize : ε → Except GenerationError OutputClass)
    (assembled : List ε → Except GenerationError OutputUnit) (es : List ε) : Prop where
  exists_unit_iff : (∃ u, assembled es = .ok u) ↔ ∃ classes, AreClassesOf synthesize es classes
  classes : ∀ u, assembled es = .ok u → AreClassesOf synthesize es u.classes
  exists_error_iff : (∃ err, assembled es = .error err) ↔
    ∃ i, IsLeast {i | Offends synthesize es i} i
  failed : ∀ i e err, IsLeast {i | Offends synthesize es i} i → es[i]? = some e →
    synthesize e = .error err → assembled es = .error err
  /-- An offender that has a class is reported together with the owner of the name. -/
  repeated : ∀ i e cls, IsLeast {i | Offends synthesize es i} i → es[i]? = some e →
    synthesize e = .ok cls → ∃ j first, IsOwner synthesize es i cls.name j ∧
      es[j]? = some first ∧ assembled es = .error (.duplicateClass ⟨cls.name, key first, key e⟩)
  /-- It does not matter what comes after the offender. -/
  rest : ∀ i rest, IsLeast {i | Offends synthesize es i} i →
    assembled (es.take (i + 1) ++ rest) = assembled es

section Entities

theorem AreClassesOf.getElem? (h : AreClassesOf synthesize es classes) (he : es[i]? = some e) :
    ∃ cls, classes[i]? = some cls ∧ synthesize e = .ok cls :=
  Outcome.getElem?_of_forall₂ h.each he

theorem AreClassesOf.eq_of_hasClassNamed (h : AreClassesOf synthesize es classes)
    (hi : es[i]? = some e) (he : HasClassNamed synthesize name e) (hj : es[j]? = some first)
    (hfirst : HasClassNamed synthesize name first) : i = j := by
  obtain ⟨_, he, rfl⟩ := he
  obtain ⟨_, hfirst, hname⟩ := hfirst
  obtain ⟨cls, hcls, hs⟩ := h.getElem? hi
  obtain ⟨cls', hcls', hs'⟩ := h.getElem? hj
  cases he.symm.trans hs
  cases hfirst.symm.trans hs'
  have hlt : i < (classes.map (·.name)).length := by
    rw [List.length_map]
    exact (List.getElem?_eq_some_iff.mp hcls).1
  refine (List.getElem?_inj hlt h.names).mp ?_
  rw [List.getElem?_map, List.getElem?_map, hcls, hcls']
  exact congrArg some hname.symm

theorem getElem?_take_eq_some_iff : (es.take i)[j]? = some e ↔ j < i ∧ es[j]? = some e := by
  rw [List.getElem?_take]
  split <;> simp_all

theorem take_append_of_getElem? (he : es[i]? = some e) :
    es.take i ++ e :: es.drop (i + 1) = es := by
  obtain ⟨hi, rfl⟩ := List.getElem?_eq_some_iff.mp he
  rw [← List.drop_eq_getElem_cons hi, List.take_append_drop]

theorem exists_areClassesOf_take (h : ∀ j < i, ¬ Offends synthesize es j) :
    ∃ classes, AreClassesOf synthesize (es.take i) classes := by
  have hall : ∀ e ∈ es.take i, ∃ cls, synthesize e = .ok cls := by
    intro e he
    obtain ⟨j, hj⟩ := List.getElem?_of_mem he
    obtain ⟨hlt, hj⟩ := getElem?_take_eq_some_iff.mp hj
    cases hs : synthesize e with
    | ok cls => exact ⟨cls, rfl⟩
    | error err => exact absurd ⟨e, hj, .inl ⟨err, hs⟩⟩ (h j hlt)
  obtain ⟨classes, hclasses⟩ := Outcome.exists_mapM_eq_ok_iff.mpr hall
  rw [Outcome.mapM_eq_ok_iff] at hclasses
  refine ⟨classes, hclasses, ?_⟩
  have hentity {k : Nat} (hk : k < classes.length) :
      ∃ e, (k < i ∧ es[k]? = some e) ∧ synthesize e = .ok classes[k] := by
    obtain ⟨e, he, hs⟩ :=
      Outcome.getElem?_of_forall₂ hclasses.flip (List.getElem?_eq_getElem hk)
    exact ⟨e, getElem?_take_eq_some_iff.mp he, hs⟩
  rw [List.Nodup, List.pairwise_map, List.pairwise_iff_getElem]
  intro j k hj hk hjk hname
  obtain ⟨first, ⟨-, hfirst⟩, hs⟩ := hentity hj
  obtain ⟨second, ⟨hlt, hsecond⟩, hs'⟩ := hentity hk
  exact h k hlt ⟨second, hsecond, .inr ⟨_, hs', j, hjk, first, hfirst, _, hs, hname⟩⟩

theorem exists_areClassesOf_take_iff :
    (∃ classes, AreClassesOf synthesize (es.take i) classes) ↔
      ∀ j < i, ¬ Offends synthesize es j := by
  refine ⟨?_, exists_areClassesOf_take⟩
  rintro ⟨classes, h⟩ j hj ⟨e, he, ⟨err, herr⟩ | ⟨cls, hcls, k, hk, first, hfirst, hnamed⟩⟩
  · obtain ⟨cls, -, hcls⟩ := h.getElem? (getElem?_take_eq_some_iff.mpr ⟨hj, he⟩)
    cases herr.symm.trans hcls
  · have heq := h.eq_of_hasClassNamed (getElem?_take_eq_some_iff.mpr ⟨hk.trans hj, hfirst⟩) hnamed
      (getElem?_take_eq_some_iff.mpr ⟨hj, he⟩) ⟨cls, hcls, rfl⟩
    exact absurd heq hk.ne

theorem isLeast_offends (hi : Offends synthesize es i)
    (h : AreClassesOf synthesize (es.take i) classes) : IsLeast {i | Offends synthesize es i} i :=
  ⟨hi, fun j hj => Nat.not_lt.mp fun hlt => exists_areClassesOf_take_iff.mp ⟨_, h⟩ j hlt hj⟩

theorem exists_areClassesOf_iff :
    (∃ classes, AreClassesOf synthesize es classes) ↔ ∀ i, ¬ Offends synthesize es i := by
  have hlength : (∃ classes, AreClassesOf synthesize (es.take es.length) classes) ↔ _ :=
    exists_areClassesOf_take_iff
  rw [List.take_length] at hlength
  rw [hlength]
  constructor
  · intro h i hi
    obtain ⟨e, he, -⟩ := id hi
    exact h i (List.getElem?_eq_some_iff.mp he).1 hi
  · exact fun h i _ => h i

theorem exists_isLeast_offends_iff :
    (∃ i, IsLeast {i | Offends synthesize es i} i) ↔
      ¬ ∃ classes, AreClassesOf synthesize es classes := by
  rw [exists_areClassesOf_iff, not_forall_not]
  constructor
  · rintro ⟨i, hi⟩
    exact ⟨i, hi.1⟩
  · intro h
    classical
    exact ⟨Nat.find h, Nat.find_spec h, fun i hi => Nat.find_min' h hi⟩

theorem lookup_takenNames (h : AreClassesOf synthesize before classes)
    (hj : before[j]? = some first) (hfirst : HasClassNamed synthesize name first) :
    (takenNames key before classes).lookup name = some (key first) := by
  obtain ⟨_, hfirst, rfl⟩ := hfirst
  obtain ⟨cls, hcls, hs⟩ := h.getElem? hj
  cases hfirst.symm.trans hs
  have hnodup : ((takenNames key before classes).map (·.1)).Nodup := by
    rw [map_fst_takenNames h.each]
    exact List.nodup_reverse.mpr h.names
  rw [lookup_eq_some_iff_mem hnodup, takenNames, List.mem_reverse, List.mem_iff_getElem?]
  exact ⟨j, by rw [List.getElem?_zipWith, hj, hcls]⟩

theorem stop_of_isLeast (key : ε → String) (hi : IsLeast {i | Offends synthesize es i} i)
    (he : es[i]? = some e) :
    ∃ classes, AreClassesOf synthesize (es.take i) classes ∧
      ((∃ err, synthesize e = .error err) ∨
        ∃ cls, synthesize e = .ok cls ∧ ∃ j first, IsOwner synthesize es i cls.name j ∧
          es[j]? = some first ∧
          (takenNames key (es.take i) classes).lookup cls.name = some (key first)) := by
  obtain ⟨classes, hmade⟩ := exists_areClassesOf_take fun j hj hoffends =>
    absurd (hi.2 hoffends) (Nat.not_le.mpr hj)
  refine ⟨classes, hmade, ?_⟩
  obtain ⟨_, he', herr | ⟨cls, hcls, j, hj, first, hfirst, hnamed⟩⟩ := id hi.1
  · cases he.symm.trans he'
    exact .inl herr
  · cases he.symm.trans he'
    have howner := getElem?_take_eq_some_iff.mpr ⟨hj, hfirst⟩
    refine .inr ⟨cls, hcls, j, first, fun k => ⟨?_, ?_⟩, hfirst,
      lookup_takenNames hmade howner hnamed⟩
    · rintro ⟨hk, x, hx, hn⟩
      exact hmade.eq_of_hasClassNamed (getElem?_take_eq_some_iff.mpr ⟨hk, hx⟩) hn howner hnamed
    · rintro rfl
      exact ⟨hj, first, hfirst, hnamed⟩

end Entities

section Assembly

theorem outcome_assemble (hne : es ≠ []) :
    (assemble c domain key run es).outcome =
      (assembleClasses key run [] es).outcome.map (⟨domain, c.packageSegments, ·⟩) := by
  rw [assemble, if_neg (mt List.isEmpty_iff.mp hne), Run.outcome_bind]
  cases (assembleClasses key run [] es).outcome <;> rfl

theorem outcome_assemble_append (h : AreClassesOf (fun e => (run e).outcome) before classes)
    (e : ε) (after : List ε) :
    (assemble c domain key run (before ++ e :: after)).outcome =
      (assembleClasses key run (takenNames key before classes) (e :: after)).outcome.map
        (⟨domain, c.packageSegments, classes ++ ·⟩) := by
  have hfresh : Fresh (([] : List (String × String)).map (·.1)) (classes.map (·.name)) :=
    fresh_nil_iff.mpr h.names
  rw [outcome_assemble (by simp), assembleClasses_append h.each hfresh, List.append_nil]
  cases (assembleClasses key run (takenNames key before classes) (e :: after)).outcome <;> rfl

theorem outcome_assemble_of_failed (h : AreClassesOf (fun e => (run e).outcome) before classes)
    (he : (run e).outcome = .error err) (after : List ε) :
    (assemble c domain key run (before ++ e :: after)).outcome = .error err := by
  rw [outcome_assemble_append h, assembleClasses, Run.outcome_bind, he]
  rfl

theorem outcome_assemble_of_repeated (h : AreClassesOf (fun e => (run e).outcome) before classes)
    (he : (run e).outcome = .ok cls) {owner : String}
    (howner : (takenNames key before classes).lookup cls.name = some owner) (after : List ε) :
    (assemble c domain key run (before ++ e :: after)).outcome =
      .error (.duplicateClass ⟨cls.name, owner, key e⟩) := by
  rw [outcome_assemble_append h, assembleClasses, Run.outcome_bind, he, Outcome.ok_bind, howner]
  rfl

theorem inTurn_assemble (c : Configuration) (domain : Domain) (key : ε → String)
    (run : ε → Run OutputClass) (hne : es ≠ []) :
    InTurn key (fun e => (run e).outcome)
      (fun es => (assemble c domain key run es).outcome) es := by
  have hclasses {u : OutputUnit} (hu : (assemble c domain key run es).outcome = .ok u) :
      AreClassesOf (fun e => (run e).outcome) es u.classes :=
    ⟨(assemble_eq_ok_iff.mp hu).2.1, (assemble_eq_ok_iff.mp hu).2.2.1⟩
  have hunit : (∃ u, (assemble c domain key run es).outcome = .ok u) ↔
      ∃ classes, AreClassesOf (fun e => (run e).outcome) es classes := by
    constructor
    · rintro ⟨u, hu⟩
      exact ⟨u.classes, hclasses hu⟩
    · rintro ⟨classes, h⟩
      exact ⟨⟨domain, c.packageSegments, classes⟩,
        assemble_eq_ok_iff.mpr ⟨hne, h.each, h.names, rfl, rfl⟩⟩
  have hsplit {i : Nat} {e : ε} {result : Except GenerationError OutputUnit}
      (he : es[i]? = some e)
      (h : (assemble c domain key run (es.take i ++ e :: es.drop (i + 1))).outcome = result) :
      (assemble c domain key run es).outcome = result := by
    rwa [take_append_of_getElem? he] at h
  refine ⟨hunit, fun u => hclasses, ?_, ?_, ?_, ?_⟩
  · rw [exists_isLeast_offends_iff, ← hunit]
    cases (assemble c domain key run es).outcome <;> simp
  · intro i e err hi he herr
    obtain ⟨classes, hmade, -⟩ := stop_of_isLeast key hi he
    exact hsplit he (outcome_assemble_of_failed hmade herr _)
  · intro i e cls hi he hcls
    obtain ⟨classes, hmade, ⟨err, herr⟩ | ⟨_, hcls', j, first, howner, hfirst, hlookup⟩⟩ :=
      stop_of_isLeast key hi he
    · cases herr.symm.trans hcls
    · cases hcls.symm.trans hcls'
      exact ⟨j, first, howner, hfirst,
        hsplit he (outcome_assemble_of_repeated hmade hcls hlookup _)⟩
  · intro i rest hi
    obtain ⟨e, he, -⟩ := id hi.1
    have htake : es.take (i + 1) ++ rest = es.take i ++ e :: rest := by
      rw [List.take_add_one, he, Option.toList_some, List.append_assoc, List.singleton_append]
    rw [htake]
    obtain ⟨classes, hmade, ⟨err, herr⟩ | ⟨cls, hcls, _, _, -, -, hlookup⟩⟩ :=
      stop_of_isLeast key hi he
    · rw [outcome_assemble_of_failed hmade herr]
      exact (hsplit he (outcome_assemble_of_failed hmade herr _)).symm
    · rw [outcome_assemble_of_repeated hmade hcls hlookup]
      exact (hsplit he (outcome_assemble_of_repeated hmade hcls hlookup _)).symm

/-- An assembly stops at the first entity that has no class or repeats the name of one. It gives the
error of that entity, or else the clash with the one earlier entity that owns the name. Without such
an entity the unit has the classes of all entities. -/
theorem assembled_in_turn (s : Schema) (c : Configuration) :
    (∀ ts ≠ [], InTurn (·.identity.key) (CustomFieldType.synthesize c)
      (fun ts => (assembleCustomFields c ts).outcome) ts) ∧
    ∀ ps ≠ [], InTurn (·.identity.key) (ProductType.synthesize s c)
      (fun ps => (assembleVariantAttributes s c ps).outcome) ps := by
  constructor
  · intro ts hne
    have h := inTurn_assemble c .customFields (·.identity.key) (CustomFieldType.run c) hne
    simp only [CustomFieldType.outcome_run] at h
    exact h
  · intro ps hne
    have h := inTurn_assemble c .variantAttributes (·.identity.key) (ProductType.run s c) hne
    simp only [ProductType.outcome_run] at h
    exact h

def tags : List CustomFieldType :=
  [{ id := "1", key := "tag" }, { id := "2", key := "?" }, { id := "3", key := "tag" }]

def garments : List ProductType :=
  [{ id := "1", name := "Shoe" }, { id := "2", name := "T-Shirt" },
   { id := "3", name := "T Shirt" }, { id := "4", name := "?" }]

theorem assembled_in_turn_garments :
    tags ≠ [] ∧ garments ≠ [] ∧
    (assembleCustomFields {} tags).outcome = .error (.invalidIdentifier .className "?" "?") ∧
    (assembleVariantAttributes (.ofCollections [] garments) {} garments).outcome =
      .error (.duplicateClass ⟨"TypedTShirtVariantAttributes", "T-Shirt", "T Shirt"⟩) := by
  have hclass {ε : Type} {synthesize : ε → Except GenerationError OutputClass} {e : ε}
      {name : String} (h : (synthesize e).map (·.name) = .ok name) :
      HasClassNamed synthesize name e := Outcome.map_eq_ok_iff.mp h
  obtain ⟨tag, htag, -⟩ := hclass (show Except.map (·.name) (CustomFieldType.synthesize {}
    { id := "1", key := "tag" }) = .ok "TypedTagFields" by decide +kernel)
  have hnone : CustomFieldType.synthesize {} { id := "2", key := "?" } =
      .error (.invalidIdentifier .className "?" "?") := rfl
  have hproduct (id name cls : String) (h : (ProductType.synthesize (.ofCollections [] garments) {}
      { id := id, name := name }).map (·.name) = .ok cls) := hclass h
  obtain ⟨shoe, hshoe, hname⟩ :=
    hproduct "1" "Shoe" "TypedShoeVariantAttributes" (by decide +kernel)
  obtain ⟨shirt, hshirt, hname'⟩ :=
    hproduct "2" "T-Shirt" "TypedTShirtVariantAttributes" (by decide +kernel)
  obtain ⟨other, hother, hname''⟩ :=
    hproduct "3" "T Shirt" "TypedTShirtVariantAttributes" (by decide +kernel)
  have howns : HasClassNamed (ProductType.synthesize (.ofCollections [] garments) {}) other.name
      { id := "2", name := "T-Shirt" } := ⟨shirt, hshirt, hname'.trans hname''.symm⟩
  have hsecond : IsLeast {i | Offends (CustomFieldType.synthesize {}) tags i} 1 :=
    isLeast_offends ⟨_, rfl, .inl ⟨_, hnone⟩⟩ ⟨.cons htag .nil, List.nodup_singleton _⟩
  have hthird : IsLeast {i | Offends (ProductType.synthesize (.ofCollections [] garments) {})
      garments i} 2 :=
    isLeast_offends ⟨_, rfl, .inr ⟨other, hother, 1, by decide, _, rfl, howns⟩⟩
      ⟨.cons hshoe (.cons hshirt .nil), by simp [hname, hname']⟩
  obtain ⟨htypes, hproducts⟩ := assembled_in_turn (.ofCollections [] garments) {}
  refine ⟨List.cons_ne_nil _ _, List.cons_ne_nil _ _,
    (htypes tags (List.cons_ne_nil _ _)).failed 1 _ _ hsecond rfl hnone, ?_⟩
  obtain ⟨j, first, howner, hfirst, herr⟩ :=
    (hproducts garments (List.cons_ne_nil _ _)).repeated 2 _ _ hthird rfl hother
  obtain rfl : 1 = j := (howner 1).mp ⟨by decide, _, rfl, howns⟩
  cases hfirst
  rw [hname''] at herr
  exact herr

end Assembly

end SchemaProjection.FirstOffender
