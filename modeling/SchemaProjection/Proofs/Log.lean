import Mathlib.Data.List.Induction
import SchemaProjection.Proofs.Generation

namespace SchemaProjection.Log

structure Entry where
  key : String
  label : String
  result : Except GenerationError OutputClass

variable {s : Schema} {c : Configuration} {d : Domain} {e : Entry} {es before after : List Entry}
  {cls : OutputClass} {classes : List OutputClass} {events : List Event} {err : GenerationError}

/-- The entities of the domain in input order. -/
def entries (s : Schema) (c : Configuration) : Domain → List Entry
  | .customFields => s.types.map fun t => ⟨t.identity.key, t.key, t.synthesize c⟩
  | .variantAttributes => s.productTypes.map fun p => ⟨p.identity.key, p.id, p.synthesize s c⟩

def synthesized (d : Domain) (label : String) (cls : OutputClass) : Event :=
  match d with
  | .customFields => .synthesizedCustomFields label cls.name cls.typedFields.fields.length
  | .variantAttributes =>
    .synthesizedVariantAttributes label cls.name cls.typedFields.fields.length

def synthesizedAll (d : Domain) (es : List Entry) (classes : List OutputClass) : List Event :=
  List.zipWith (fun e cls => synthesized d e.label cls) es classes

def warnings (u : OutputUnit) : List Event :=
  u.fallbackFields.map fun (cls, f) => .degraded u.domain cls.name f.raw

/-- The entities have these classes, no two of one name. -/
def Made (es : List Entry) (classes : List OutputClass) : Prop :=
  List.Forall₂ (fun e cls => e.result = .ok cls) es classes ∧ (classes.map (·.name)).Nodup

/-- The log of a domain that is skipped or has a unit. -/
inductive Finished (s : Schema) (c : Configuration) (d : Domain) : List Event → Prop
  | skipped (h : entries s c d = []) : Finished s c d [.skipped d]
  | assembled {classes : List OutputClass} (hne : entries s c d ≠ [])
    (h : Made (entries s c d) classes) :
    Finished s c d (synthesizedAll d (entries s c d) classes ++
      .assembled d classes.length :: warnings ⟨d, c.packageSegments, classes⟩)

/-- The log of a domain that has no unit because of one entity, the first that has no class or whose
class has a name that is taken. -/
inductive Stopped (s : Schema) (c : Configuration) (d : Domain) : List Event → Prop
  | failed {before after : List Entry} {e : Entry} {classes : List OutputClass}
    {err : GenerationError} (hsplit : entries s c d = before ++ e :: after)
    (hmade : Made before classes) (h : e.result = .error err) :
    Stopped s c d (synthesizedAll d before classes)
  | repeated {before after : List Entry} {e : Entry} {classes : List OutputClass}
    {cls : OutputClass} (hsplit : entries s c d = before ++ e :: after)
    (hmade : Made before classes) (h : e.result = .ok cls)
    (hname : cls.name ∈ classes.map (·.name)) :
    Stopped s c d (synthesizedAll d before classes ++ [synthesized d e.label cls])

section Runs

def Entry.run (d : Domain) (e : Entry) : Run OutputClass := do
  let cls ← .ofExcept e.result
  .log (synthesized d e.label cls)
  return cls

theorem run_of_ok (d : Domain) (h : e.result = .ok cls) :
    e.run d = ⟨[synthesized d e.label cls], .ok cls⟩ := by
  rw [Entry.run, h]
  rfl

theorem run_of_error (d : Domain) (h : e.result = .error err) : e.run d = ⟨[], .error err⟩ := by
  rw [Entry.run, h]
  rfl

theorem events_of_made (d : Domain)
    (h : List.Forall₂ (fun e cls => e.result = .ok cls) es classes) :
    es.flatMap (fun e => (e.run d).events) = synthesizedAll d es classes := by
  induction h with
  | nil => rfl
  | cons he _ ih =>
    rw [List.flatMap_cons, run_of_ok d he, ih]
    rfl

theorem assembleClasses_of_prefix (d : Domain) (h : Made before classes) (rest : List Entry) :
    assembleClasses Entry.key (Entry.run d) [] (before ++ rest) =
      ⟨synthesizedAll d before classes ++ (assembleClasses Entry.key (Entry.run d)
          (takenNames Entry.key before classes) rest).events,
        (assembleClasses Entry.key (Entry.run d)
          (takenNames Entry.key before classes) rest).outcome.map (classes ++ ·)⟩ := by
  obtain ⟨hclasses, hnames⟩ := h
  have hruns : List.Forall₂ (fun e cls => (e.run d).outcome = .ok cls) before classes :=
    hclasses.imp fun e cls he => congrArg Run.outcome (run_of_ok d he)
  have hfresh : Fresh (([] : List (String × String)).map (·.1)) (classes.map (·.name)) :=
    fresh_nil_iff.mpr hnames
  rw [assembleClasses_append hruns hfresh, List.append_nil, events_of_made d hclasses]

theorem assembleClasses_of_made (d : Domain) (h : Made es classes) :
    assembleClasses Entry.key (Entry.run d) [] es = ⟨synthesizedAll d es classes, .ok classes⟩ := by
  have hrun := assembleClasses_of_prefix d h []
  rw [List.append_nil] at hrun
  rw [hrun]
  change Run.mk (_ ++ []) (.ok (_ ++ [])) = _
  rw [List.append_nil, List.append_nil]

theorem assembleClasses_of_failed (d : Domain) (h : Made before classes)
    (he : e.result = .error err) (after : List Entry) :
    assembleClasses Entry.key (Entry.run d) [] (before ++ e :: after) =
      ⟨synthesizedAll d before classes, .error err⟩ := by
  have hrun := assembleClasses_of_prefix d h (e :: after)
  rw [hrun, assembleClasses, run_of_error d he, Run.error_bind, List.append_nil]
  rfl

theorem assembleClasses_of_repeated (d : Domain) (h : Made before classes)
    (he : e.result = .ok cls) (hname : cls.name ∈ classes.map (·.name)) (after : List Entry) :
    ∃ err, assembleClasses Entry.key (Entry.run d) [] (before ++ e :: after) =
      ⟨synthesizedAll d before classes ++ [synthesized d e.label cls], .error err⟩ := by
  cases hfirst : (takenNames Entry.key before classes).lookup cls.name with
  | none =>
    rw [lookup_eq_none_iff_notMem, map_fst_takenNames h.1, List.mem_reverse] at hfirst
    exact absurd hname hfirst
  | some first =>
    have hrun := assembleClasses_of_prefix d h (e :: after)
    refine ⟨.duplicateClass ⟨cls.name, first, e.key⟩, ?_⟩
    rw [hrun, assembleClasses, run_of_ok d he, Run.ok_bind]
    simp only [hfirst]
    rfl

/-- An assembly that stops has one entity that stops it. -/
theorem made_or_stopped (es : List Entry) :
    (∃ classes, Made es classes) ∨
      ∃ before e after classes, es = before ++ e :: after ∧ Made before classes ∧
        ((∃ err, e.result = .error err) ∨
          ∃ cls, e.result = .ok cls ∧ cls.name ∈ classes.map (·.name)) := by
  induction es using List.reverseRecOn with
  | nil => exact .inl ⟨[], .nil, List.nodup_nil⟩
  | append_singleton es e ih =>
    obtain ⟨classes, hmade⟩ | ⟨before, x, after, classes, rfl, hmade, hx⟩ := ih
    · cases he : e.result with
      | error err => exact .inr ⟨es, e, [], classes, rfl, hmade, .inl ⟨err, he⟩⟩
      | ok cls =>
        by_cases hname : cls.name ∈ classes.map (·.name)
        · exact .inr ⟨es, e, [], classes, rfl, hmade, .inr ⟨cls, he, hname⟩⟩
        · refine .inl ⟨classes ++ [cls], List.rel_append hmade.1 (.cons he .nil), ?_⟩
          rw [List.map_append, List.nodup_append]
          refine ⟨hmade.2, List.nodup_singleton _, ?_⟩
          rintro n hn m hm rfl
          obtain rfl := List.mem_singleton.mp hm
          exact hname hn
    · exact .inr ⟨before, x, after ++ [e], classes, by simp, hmade, hx⟩

end Runs

section Units

theorem logFallbacks_eq (u : OutputUnit) : u.logFallbacks = ⟨warnings u, .ok ()⟩ :=
  Run.forM_log _ _

theorem assemble_of_ne_nil {ε : Type} {key : ε → String} {synthesize : ε → Run OutputClass}
    {xs : List ε} (hne : xs ≠ []) :
    assemble c d key synthesize xs = assembleClasses key synthesize [] xs >>= fun classes =>
      ⟨[.assembled d classes.length], .ok ⟨d, c.packageSegments, classes⟩⟩ := by
  rw [assemble, if_neg (mt List.isEmpty_iff.mp hne)]
  rfl

theorem map_some_reported {ε : Type} {key : ε → String} {synthesize : ε → Run OutputClass}
    {xs : List ε} (hne : xs ≠ []) :
    some <$> (do
      let u ← assemble c d key synthesize xs
      u.logFallbacks
      return u) =
    assembleClasses key synthesize [] xs >>= fun classes =>
      ⟨.assembled d classes.length :: warnings ⟨d, c.packageSegments, classes⟩,
        .ok (some ⟨d, c.packageSegments, classes⟩)⟩ := by
  simp only [assemble_of_ne_nil hne, logFallbacks_eq]
  cases assembleClasses key synthesize [] xs with
  | mk events outcome =>
    cases outcome with
    | error err => rfl
    | ok classes =>
      change Run.mk (((events ++ [_]) ++ (warnings _ ++ [])) ++ []) _ = Run.mk (events ++ _ :: _) _
      rw [List.append_nil, List.append_nil, List.append_assoc]
      rfl

theorem unit?_of_ne_nil (hne : entries s c d ≠ []) :
    s.unit? c d = assembleClasses Entry.key (Entry.run d) [] (entries s c d) >>= fun classes =>
      ⟨.assembled d classes.length :: warnings ⟨d, c.packageSegments, classes⟩,
        .ok (some ⟨d, c.packageSegments, classes⟩)⟩ := by
  cases d with
  | customFields =>
    have htypes : s.types ≠ [] := mt List.map_eq_nil_iff.mpr hne
    rw [entries, assembleClasses_map, Schema.unit?,
      if_neg (mt List.isEmpty_iff.mp htypes)]
    exact map_some_reported htypes
  | variantAttributes =>
    have hproducts : s.productTypes ≠ [] := mt List.map_eq_nil_iff.mpr hne
    rw [entries, assembleClasses_map, Schema.unit?,
      if_neg (mt List.isEmpty_iff.mp hproducts)]
    exact map_some_reported hproducts

theorem unit?_of_nil (h : entries s c d = []) : s.unit? c d = ⟨[.skipped d], .ok none⟩ := by
  cases d with
  | customFields =>
    rw [Schema.unit?, List.map_eq_nil_iff.mp h]
    rfl
  | variantAttributes =>
    rw [Schema.unit?, List.map_eq_nil_iff.mp h]
    rfl

theorem unit?_of_finished (h : Finished s c d events) : ∃ u, s.unit? c d = ⟨events, .ok u⟩ := by
  cases h with
  | skipped h => exact ⟨none, unit?_of_nil h⟩
  | assembled hne h =>
    rw [unit?_of_ne_nil hne, assembleClasses_of_made d h, Run.ok_bind]
    exact ⟨_, rfl⟩

theorem unit?_of_stopped (h : Stopped s c d events) :
    ∃ err, s.unit? c d = ⟨events, .error err⟩ := by
  cases h with
  | @failed before after e classes err hsplit hmade he =>
    have hne : entries s c d ≠ [] := by simp [hsplit]
    refine ⟨err, ?_⟩
    rw [unit?_of_ne_nil hne, hsplit, assembleClasses_of_failed d hmade he, Run.error_bind]
  | @repeated before after e classes cls hsplit hmade he hname =>
    have hne : entries s c d ≠ [] := by simp [hsplit]
    obtain ⟨err, hrun⟩ := assembleClasses_of_repeated d hmade he hname after
    refine ⟨err, ?_⟩
    rw [unit?_of_ne_nil hne, hsplit, hrun, Run.error_bind]

theorem finished_or_stopped (s : Schema) (c : Configuration) (d : Domain) :
    (∃ events, Finished s c d events) ∨ ∃ events, Stopped s c d events := by
  by_cases hne : entries s c d = []
  · exact .inl ⟨_, .skipped hne⟩
  · obtain ⟨classes, hmade⟩ | ⟨before, e, after, classes, hsplit, hmade, he⟩ :=
      made_or_stopped (entries s c d)
    · exact .inl ⟨_, .assembled hne hmade⟩
    · obtain ⟨err, he⟩ | ⟨cls, he, hname⟩ := he
      · exact .inr ⟨_, .failed hsplit hmade he⟩
      · exact .inr ⟨_, .repeated hsplit hmade he hname⟩

theorem stopped_iff :
    Stopped s c d events ↔ ∃ err, s.unit? c d = ⟨events, .error err⟩ := by
  refine ⟨unit?_of_stopped, ?_⟩
  rintro ⟨err, hrun⟩
  obtain ⟨finished, h⟩ | ⟨stopped, h⟩ := finished_or_stopped s c d
  · obtain ⟨u, hu⟩ := unit?_of_finished h
    cases hrun.symm.trans hu
  · obtain ⟨err', herr⟩ := unit?_of_stopped h
    cases hrun.symm.trans herr
    exact h

theorem finished_iff : Finished s c d events ↔ ∃ u, s.unit? c d = ⟨events, .ok u⟩ := by
  refine ⟨unit?_of_finished, ?_⟩
  rintro ⟨u, hrun⟩
  obtain ⟨finished, h⟩ | ⟨stopped, h⟩ := finished_or_stopped s c d
  · obtain ⟨u', hu⟩ := unit?_of_finished h
    cases hrun.symm.trans hu
    exact h
  · obtain ⟨err, herr⟩ := unit?_of_stopped h
    cases hrun.symm.trans herr

theorem unit?_eq_some_iff {u : OutputUnit} :
    (s.unit? c d).outcome = .ok (some u) ↔
      entries s c d ≠ [] ∧ Made (entries s c d) u.classes ∧
        u = ⟨d, c.packageSegments, u.classes⟩ := by
  obtain ⟨domain, package, classes⟩ := u
  cases d with
  | customFields =>
    rw [Schema.unit?_customFields_eq_some_iff, Schema.customFieldsUnit_eq_ok_iff]
    simp [entries, Made, List.forall₂_map_left_iff, and_assoc]
  | variantAttributes =>
    rw [Schema.unit?_variantAttributes_eq_some_iff, Schema.variantAttributesUnit_eq_ok_iff]
    simp [entries, Made, List.forall₂_map_left_iff, and_assoc]

end Units

section Generation

theorem events_generate (s : Schema) (c : Configuration) :
    (s.generate c).events = (s.unit? c .customFields >>= fun _ =>
      s.unit? c .variantAttributes).events := by
  rw [Schema.generate]
  cases s.unit? c .customFields with
  | mk first outcome =>
    cases outcome with
    | error err => rfl
    | ok fields =>
      cases s.unit? c .variantAttributes with
      | mk second outcome =>
        cases outcome with
        | error err => rfl
        | ok attributes =>
          change first ++ (second ++ []) = first ++ second
          rw [List.append_nil]

theorem events_generate_iff :
    (s.generate c).events = events ↔
      Stopped s c .customFields events ∨
        ∃ first second, Finished s c .customFields first ∧
          (Finished s c .variantAttributes second ∨ Stopped s c .variantAttributes second) ∧
          events = first ++ second := by
  simp only [stopped_iff, finished_iff, events_generate]
  cases s.unit? c .customFields with
  | mk first outcome =>
    cases outcome with
    | error err => simp
    | ok fields =>
      cases s.unit? c .variantAttributes with
      | mk second outcome => cases outcome <;> simp [eq_comm]

/-- A generation leaves the events of the first domain and, unless that has stopped it, those of
the second. A domain stops it if its unit fails. -/
theorem log_of_generate (s : Schema) (c : Configuration) :
    (∀ events, (s.generate c).events = events ↔
      Stopped s c .customFields events ∨
        ∃ first second, Finished s c .customFields first ∧
          (Finished s c .variantAttributes second ∨ Stopped s c .variantAttributes second) ∧
          events = first ++ second) ∧
    (∀ d, (∃ err, (s.unit? c d).outcome = .error err) ↔ ∃ events, Stopped s c d events) ∧
    (∀ d u, (s.unit? c d).outcome = .ok (some u) ↔
      entries s c d ≠ [] ∧ Made (entries s c d) u.classes ∧
        u = ⟨d, c.packageSegments, u.classes⟩) ∧
    (∀ d, (Event.skipped d).level = .info ∧
      (Event.skipped d).message = "no definitions, skipping") ∧
    (∀ d label cls, (synthesized d label cls).level = .debug) ∧
    (∀ d n, (Event.assembled d n).level = .info ∧
      (Event.assembled d n).message = "assembled output unit") ∧
    ∀ u, ∀ event ∈ warnings u, event.level = .warn := by
  refine ⟨fun events => events_generate_iff, ?_, fun d u => unit?_eq_some_iff,
    fun d => ⟨rfl, rfl⟩, ?_, fun d n => ⟨rfl, rfl⟩, ?_⟩
  · intro d
    simp only [stopped_iff]
    cases s.unit? c d with
    | mk events outcome => simp
  · intro d label cls
    cases d <;> rfl
  · intro u event hevent
    obtain ⟨⟨cls, f⟩, -, rfl⟩ := List.mem_map.mp hevent
    rfl

def hat (id : String) : ProductType :=
  { id, name := "Hat" }

def hatShop : Schema :=
  .ofCollections
    [{ id := "t", key := "color", fields := [{ name := "shade", type := .unknown }] }]
    [hat "p", hat "q", { id := "r", name := "Cap" }]

theorem log_of_generate_hatShop :
    (hatShop.generate {}).events =
      [.synthesizedCustomFields "color" "TypedColorFields" 1, .assembled .customFields 1,
        .degraded .customFields "TypedColorFields" "shade",
        .synthesizedVariantAttributes "p" "TypedHatVariantAttributes" 0,
        .synthesizedVariantAttributes "q" "TypedHatVariantAttributes" 0] ∧
    ∃ err, (hatShop.unit? {} .variantAttributes).outcome = .error err := by
  obtain ⟨hevents, hstopped, -⟩ := log_of_generate hatShop {}
  have hne : entries hatShop {} .customFields ≠ [] := List.cons_ne_nil _ _
  have hcolor : Made (entries hatShop {} .customFields) _ :=
    ⟨.cons rfl .nil, List.nodup_singleton _⟩
  have hsplit : entries hatShop {} .variantAttributes = [_] ++ _ :: [_] := rfl
  have hhat : Made [⟨"Hat", "p", (hat "p").synthesize hatShop {}⟩] _ :=
    ⟨.cons rfl .nil, List.nodup_singleton _⟩
  have hrepeated := Stopped.repeated hsplit hhat rfl List.mem_cons_self
  exact ⟨(hevents _).mpr (.inr ⟨_, _, .assembled hne hcolor, .inr hrepeated, rfl⟩),
    (hstopped _).mpr ⟨_, hrepeated⟩⟩

end Generation

end SchemaProjection.Log
