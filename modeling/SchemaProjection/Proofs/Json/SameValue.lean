import Mathlib.Data.List.Perm.Basic
import SchemaProjection.Proofs.Json.Value

namespace SchemaProjection.Json

variable {α : Type} {v w : Json} {members members' : List (String × Json)} {name : String}

inductive Named (R : Json → Json → Prop) : String × Json → String × Json → Prop
  | intro {name : String} {v w : Json} (h : R v w) : Named R (name, v) (name, w)

/-- The same value, in which no object repeats a name. -/
inductive SameValue : Json → Json → Prop
  | null : SameValue null null
  | bool (b : Bool) : SameValue (bool b) (bool b)
  | natural (n : Nat) : SameValue (natural n) (natural n)
  | number (text text' : String) : SameValue (number text) (number text')
  | string (s : String) : SameValue (string s) (string s)
  | array {items items' : List Json} (h : List.Forall₂ SameValue items items') :
    SameValue (array items) (array items')
  | object {members members' rearranged : List (String × Json)}
    (hnames : (members.map (·.1)).Nodup)
    (hvalues : List.Forall₂ (Named SameValue) members rearranged)
    (hperm : rearranged.Perm members') : SameValue (object members) (object members')

section Repeats

theorem mem_names_lastWinsMembers (h : name ∈ (lastWinsMembers members).map (·.1)) :
    name ∈ members.map (·.1) := by
  induction members with
  | nil => exact h
  | cons e members ih =>
    rw [List.map_cons, List.mem_cons]
    rw [lastWinsMembers] at h
    split at h
    · exact .inr (ih h)
    · exact (List.mem_cons.mp h).imp_right ih

theorem nodup_lastWinsMembers (members : List (String × Json)) :
    ((lastWinsMembers members).map (·.1)).Nodup := by
  induction members with
  | nil => exact .nil
  | cons e members ih =>
    rw [lastWinsMembers]
    split
    next => exact ih
    next hlast =>
      refine List.nodup_cons.mpr ⟨fun hname => hlast ?_, ih⟩
      obtain ⟨a, ha, heq⟩ := List.mem_map.mp (mem_names_lastWinsMembers hname)
      exact List.any_eq_true.mpr ⟨a, ha, beq_iff_eq.mpr heq⟩

theorem sameValue_lastWins (v : Json) : v.lastWins.SameValue v.lastWins := by
  cases v with
  | null => exact .null
  | bool b => exact .bool b
  | natural n => exact .natural n
  | number text => exact .number text text
  | string s => exact .string s
  | array items =>
    rw [lastWins_array]
    apply SameValue.array
    rw [List.forall₂_same, List.forall_mem_map]
    intro v hv
    have hdepth := depth_lt_of_mem_array hv
    exact sameValue_lastWins v
  | object members =>
    rw [lastWins]
    refine .object (nodup_lastWinsMembers members) ?_ (.refl _)
    rw [List.forall₂_same]
    rintro ⟨name, v⟩ he
    obtain ⟨a, ha, rfl⟩ := exists_of_mem_lastWinsMembers he
    have hdepth := depth_lt_of_mem_object ha
    exact ⟨sameValue_lastWins a.2⟩
termination_by v.depth

theorem lastWins_eq_self_of_sameValue {v w : Json} (h : v.SameValue w) : v.lastWins = v := by
  cases h with
  | @array items items' h =>
    apply lastWins_array_eq_self
    intro v hv
    obtain ⟨w, -, hw⟩ := Outcome.exists_of_mem_forall₂ h.flip hv
    have hdepth := depth_lt_of_mem_array hv
    exact lastWins_eq_self_of_sameValue hw
  | @object members members' rearranged hnames hvalues hperm =>
    apply lastWins_object_eq_self hnames
    intro e he
    obtain ⟨_, -, ⟨hw⟩⟩ := Outcome.exists_of_mem_forall₂ hvalues.flip he
    have hdepth := depth_lt_of_mem_object he
    exact lastWins_eq_self_of_sameValue hw
  | _ => rfl
termination_by v.depth

theorem sameValue_self_iff : v.SameValue v ↔ v.lastWins = v := by
  constructor
  · exact lastWins_eq_self_of_sameValue
  · intro h
    have hv := sameValue_lastWins v
    rwa [h] at hv

theorem lastWins_object_eq_self_iff :
    (object members).lastWins = object members ↔
      (members.map (·.1)).Nodup ∧ ∀ e ∈ members, e.2.lastWins = e.2 := by
  constructor
  · intro h
    obtain _ | _ | _ | _ | _ | _ | ⟨hnames, hvalues, -⟩ := sameValue_self_iff.mpr h
    refine ⟨hnames, fun e he => ?_⟩
    obtain ⟨_, -, ⟨hw⟩⟩ := Outcome.exists_of_mem_forall₂ hvalues.flip he
    exact lastWins_eq_self_of_sameValue hw
  · rintro ⟨hnames, hvalues⟩
    exact lastWins_object_eq_self hnames hvalues

end Repeats

/-- What is read off a value is the same however it is written. -/
def Respects (f : Json → α) : Prop :=
  ∀ v w, v.SameValue w → f v = f w

section Related

variable {β γ δ : Type} {R : α → β → Prop} {x : Option α} {y : Option β}

theorem rel_bind {S : γ → δ → Prop} {f : α → Option γ} {g : β → Option δ} (h : Option.Rel R x y)
    (hr : ∀ a b, R a b → Option.Rel S (f a) (g b)) : Option.Rel S (x.bind f) (y.bind g) := by
  cases h with
  | none => exact .none
  | some h => exact hr _ _ h

theorem bind_eq_bind_of_rel {f : α → Option γ} {g : β → Option γ} (h : Option.Rel R x y)
    (hr : ∀ a b, R a b → f a = g b) : x.bind f = y.bind g := by
  cases h with
  | none => rfl
  | some h => exact hr _ _ h

theorem rel_mapM {f : γ → Option α} {g : γ → Option β} (h : ∀ x, Option.Rel R (f x) (g x))
    (xs : List γ) :
    Option.Rel (List.Forall₂ R) (xs.mapM f) (xs.mapM g) := by
  induction xs with
  | nil => exact .some .nil
  | cons x xs ih =>
    rw [List.mapM_cons, List.mapM_cons]
    apply rel_bind (h x)
    intro a b hab
    apply rel_bind ih
    intro as bs has
    exact .some (.cons hab has)

end Related

section Members

theorem names_of_named {R : Json → Json → Prop} (h : List.Forall₂ (Named R) members members') :
    members.map (·.1) = members'.map (·.1) := by
  apply Outcome.map_eq_map_of_forall₂ h
  rintro _ _ ⟨_⟩
  rfl

theorem SameValue.filter (h : (Json.object members).SameValue (.object members'))
    (name : String) :
    (members.filter (·.1 == name) = [] ∧ members'.filter (·.1 == name) = []) ∨
      ∃ v w, members.filter (·.1 == name) = [(name, v)] ∧
        members'.filter (·.1 == name) = [(name, w)] ∧ v.SameValue w := by
  obtain _ | _ | _ | _ | _ | _ | ⟨hnames, hvalues, hperm⟩ := h
  have heq := names_of_named hvalues
  have hnames' : (members'.map (·.1)).Nodup := by
    rw [heq] at hnames
    exact (hperm.map (·.1)).nodup_iff.mp hnames
  by_cases hname : name ∈ members.map (·.1)
  · obtain ⟨⟨n, v⟩, he, rfl⟩ := List.mem_map.mp hname
    obtain ⟨_, he', hvw⟩ := Outcome.exists_of_mem_forall₂ hvalues.flip he
    obtain @⟨_, _, w, hvw⟩ := hvw
    exact .inr ⟨v, w, filter_name_of_nodup hnames he,
      filter_name_of_nodup hnames' (hperm.mem_iff.mp he'), hvw⟩
  · have hname' : name ∉ members'.map (·.1) := by
      rw [← (hperm.map (·.1)).mem_iff, ← heq]
      exact hname
    simp only [List.filter_eq_nil_iff, Bool.not_eq_true]
    exact .inl ⟨fun e => name_beq_eq_false hname, fun e => name_beq_eq_false hname'⟩

theorem SameValue.slots? (h : v.SameValue w) (names : List String) :
    Option.Rel (List.Forall₂ (Option.Rel SameValue)) (v.slots? names) (w.slots? names) := by
  cases h with
  | @array items items' h =>
    rw [Json.slots?, Json.slots?, h.length_eq]
    split
    · refine .some (List.rel_append ?_ ?_)
      · rw [List.forall₂_map_left_iff, List.forall₂_map_right_iff]
        exact h.imp fun _ _ => .some
      · rw [List.forall₂_same]
        intro found hfound
        rw [List.eq_of_mem_replicate hfound]
        exact .none
    · exact .none
  | @object members members' rearranged hnames hvalues hperm =>
    have h := SameValue.object hnames hvalues hperm
    rw [Json.slots?, Json.slots?]
    apply rel_mapM
    intro name
    obtain ⟨hnone, hnone'⟩ | ⟨v, w, hv, hw, h⟩ := h.filter name
    · rw [hnone, hnone']
      exact .some .none
    · rw [hv, hw]
      exact .some (.some h)
  | _ => exact .none

end Members

end SchemaProjection.Json
