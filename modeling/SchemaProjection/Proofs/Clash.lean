import SchemaProjection.Clash
import SchemaProjection.Proofs.KeyMap
import SchemaProjection.Proofs.Outcome

namespace SchemaProjection

variable {α : Type} {seen names : List String} {n : String}

/-- The names are distinct, and none has been seen before. -/
def Fresh (seen names : List String) : Prop :=
  names.Nodup ∧ ∀ n ∈ names, n ∉ seen

theorem fresh_nil : Fresh seen [] :=
  ⟨List.nodup_nil, List.forall_mem_nil _⟩

theorem fresh_cons_iff : Fresh seen (n :: names) ↔ n ∉ seen ∧ Fresh (n :: seen) names := by
  rw [Fresh, Fresh, List.nodup_cons, List.forall_mem_cons]
  simp only [List.mem_cons, not_or]
  constructor
  · rintro ⟨⟨hn, hd⟩, hs, h⟩
    exact ⟨hs, hd, fun m hm => ⟨fun he => hn (he ▸ hm), h m hm⟩⟩
  · rintro ⟨hs, hd, h⟩
    exact ⟨⟨fun hm => (h n hm).1 rfl, hd⟩, hs, fun m hm => (h m hm).2⟩

theorem fresh_nil_iff : Fresh [] names ↔ names.Nodup :=
  and_iff_left fun _ _ => List.not_mem_nil

/-- `second` is the first element with a name that has occurred before, and `first` is the only
element before it that has the name. -/
def FirstRepeat (name : α → String) (xs : List α) (first second : α) : Prop :=
  ∃ before between after, xs = (before ++ first :: between) ++ second :: after ∧
    ((before ++ first :: between).map name).Nodup ∧ name first = name second

namespace Clash

theorem find?_eq_none_iff {seen es : List (String × String)} :
    find? seen es = none ↔ Fresh (seen.map (·.1)) (es.map (·.1)) := by
  induction es generalizing seen with
  | nil => exact iff_of_true rfl fresh_nil
  | cons e es ih =>
    obtain ⟨name, raw⟩ := e
    rw [find?, List.map_cons, fresh_cons_iff, ← lookup_eq_none_iff_notMem]
    cases seen.lookup name with
    | some first => simp
    | none => simp only [ih, List.map_cons, true_and]

theorem find?_nil_eq_none_iff {es : List (String × String)} :
    find? [] es = none ↔ (es.map (·.1)).Nodup :=
  find?_eq_none_iff.trans fresh_nil_iff

theorem find?_append (seen es more : List (String × String)) :
    find? seen (es ++ more) = (find? seen es).or (find? (es.reverse ++ seen) more) := by
  induction es generalizing seen with
  | nil => rfl
  | cons e es ih =>
    obtain ⟨name, raw⟩ := e
    rw [List.cons_append, find?, find?]
    cases seen.lookup name with
    | some first => rfl
    | none => simp [ih]

theorem find?_singleton_eq_some_iff {before : List (String × String)}
    (h : (before.map (·.1)).Nodup) {e : String × String} {clash : Clash} :
    find? before.reverse [e] = some clash ↔
      ∃ first ∈ before, first.1 = e.1 ∧ clash = ⟨e.1, first.2, e.2⟩ := by
  obtain ⟨name, raw⟩ := e
  have hreverse : (before.reverse.map (·.1)).Nodup := by
    rw [List.map_reverse]
    exact List.nodup_reverse.mpr h
  have hlookup (first : String) : before.reverse.lookup name = some first ↔ (name, first) ∈ before :=
    (lookup_eq_some_iff_mem hreverse).trans List.mem_reverse
  rw [find?]
  constructor
  · intro hfind
    cases hfirst : before.reverse.lookup name with
    | none => simp [hfirst, find?] at hfind
    | some first =>
      rw [hfirst] at hfind
      exact ⟨_, (hlookup first).mp hfirst, rfl, (Option.some.inj hfind).symm⟩
  · rintro ⟨⟨_, first⟩, hmem, rfl, rfl⟩
    rw [(hlookup first).mpr hmem]

def check (seen es : List (String × String)) : Except Clash Unit :=
  (find? seen es).elim (.ok ()) .error

theorem check_eq_ok_iff {seen es : List (String × String)} :
    check seen es = .ok () ↔ find? seen es = none := by
  rw [check]
  cases find? seen es <;> simp

theorem check_eq_error_iff {seen es : List (String × String)} {clash : Clash} :
    check seen es = .error clash ↔ find? seen es = some clash := by
  rw [check]
  cases find? seen es <;> simp

theorem check_append_singleton (es : List (String × String)) (e : String × String) :
    check [] (es ++ [e]) = check [] es >>= fun _ => check es.reverse [e] := by
  rw [check, check, find?_append, List.append_nil]
  cases find? [] es <;> rfl

theorem find?_nil_eq_some_iff {es : List (String × String)} {clash : Clash} :
    find? [] es = some clash ↔
      ∃ first second, FirstRepeat (·.1) es first second ∧
        clash = ⟨second.1, first.2, second.2⟩ := by
  rw [← check_eq_error_iff, Outcome.scan_eq_error_iff rfl check_append_singleton]
  simp only [check_eq_ok_iff, check_eq_error_iff, find?_nil_eq_none_iff]
  constructor
  · rintro ⟨before, second, after, rfl, hnodup, hfind⟩
    obtain ⟨first, hmem, hname, hclash⟩ := (find?_singleton_eq_some_iff hnodup).mp hfind
    obtain ⟨before, between, rfl⟩ := List.append_of_mem hmem
    exact ⟨first, second, ⟨before, between, after, rfl, hnodup, hname⟩, hclash⟩
  · rintro ⟨first, second, ⟨before, between, after, rfl, hnodup, hname⟩, rfl⟩
    refine ⟨_, second, after, rfl, hnodup, (find?_singleton_eq_some_iff hnodup).mpr ?_⟩
    exact ⟨first, List.mem_append_right _ List.mem_cons_self, hname, rfl⟩

end Clash

variable {β : Type} {name : α → String} {xs : List α}

theorem firstRepeat_map_iff {g : β → α} {ys : List β} {first second : α} :
    FirstRepeat name (ys.map g) first second ↔
      ∃ y z, FirstRepeat (fun y => name (g y)) ys y z ∧ g y = first ∧ g z = second := by
  constructor
  · rintro ⟨before, between, after, hsplit, hnodup, hname⟩
    obtain ⟨_, _, rfl, hleft, hright⟩ := List.map_eq_append_iff.mp hsplit
    obtain ⟨z, after, rfl, rfl, rfl⟩ := List.map_eq_cons_iff.mp hright
    obtain ⟨before, _, rfl, rfl, hmiddle⟩ := List.map_eq_append_iff.mp hleft
    obtain ⟨y, between, rfl, rfl, rfl⟩ := List.map_eq_cons_iff.mp hmiddle
    rw [← List.map_cons, ← List.map_append, List.map_map] at hnodup
    exact ⟨y, z, ⟨before, between, after, rfl, hnodup, hname⟩, rfl, rfl⟩
  · rintro ⟨y, z, ⟨before, between, after, rfl, hnodup, hname⟩, rfl, rfl⟩
    refine ⟨before.map g, between.map g, after.map g, by simp, ?_, hname⟩
    rwa [← List.map_cons, ← List.map_append, List.map_map]

theorem Clash.find?_map_eq_some_iff {raw : α → String} {clash : Clash} :
    find? [] (xs.map fun x => (name x, raw x)) = some clash ↔
      ∃ first second, FirstRepeat name xs first second ∧
        clash = ⟨name second, raw first, raw second⟩ := by
  rw [find?_nil_eq_some_iff]
  simp only [firstRepeat_map_iff]
  constructor
  · rintro ⟨_, _, ⟨first, second, hrepeat, rfl, rfl⟩, hclash⟩
    exact ⟨first, second, hrepeat, hclash⟩
  · rintro ⟨first, second, hrepeat, hclash⟩
    exact ⟨_, _, ⟨first, second, hrepeat, rfl, rfl⟩, hclash⟩

theorem exists_firstRepeat_iff :
    (∃ first second, FirstRepeat name xs first second) ↔ ¬ (xs.map name).Nodup := by
  have hnone : Clash.find? [] (xs.map fun x => (name x, name x)) = none ↔ (xs.map name).Nodup := by
    rw [Clash.find?_nil_eq_none_iff, List.map_map]
    rfl
  rw [← hnone, ← ne_eq, Option.ne_none_iff_exists']
  simp only [Clash.find?_map_eq_some_iff]
  constructor
  · rintro ⟨first, second, hrepeat⟩
    exact ⟨_, first, second, hrepeat, rfl⟩
  · rintro ⟨_, first, second, hrepeat, -⟩
    exact ⟨first, second, hrepeat⟩

end SchemaProjection
