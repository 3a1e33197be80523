import SchemaProjection.Json.Value
import SchemaProjection.Proofs.Outcome

namespace SchemaProjection.Json

variable {items : List Json} {members : List (String × Json)} {names : List String} {j v : Json}
  {name : String} {n : Nat}

theorem name_beq_eq_false (h : name ∉ members.map (·.1)) {e : String × Json} (he : e ∈ members) :
    (e.1 == name) = false := by
  rw [beq_eq_false_iff_ne]
  rintro rfl
  exact h (List.mem_map_of_mem he)

theorem mem_of_filter_eq_singleton {p : String × Json → Bool} {e : String × Json}
    (h : members.filter p = [e]) : e ∈ members := by
  have hmem : e ∈ members.filter p := by
    rw [h]
    exact List.mem_singleton_self e
  exact List.mem_of_mem_filter hmem

theorem filter_name_of_nodup (h : (members.map (·.1)).Nodup) {e : String × Json}
    (he : e ∈ members) : members.filter (·.1 == e.1) = [e] := by
  induction members with
  | nil => cases he
  | cons a members ih =>
    obtain ⟨ha, hrest⟩ := List.nodup_cons.mp h
    obtain rfl | he := List.mem_cons.mp he
    · have hnone : members.filter (·.1 == e.1) = [] := by
        rw [List.filter_eq_nil_iff]
        intro b hb
        rw [name_beq_eq_false ha hb]
        exact Bool.false_ne_true
      rw [List.filter_cons, hnone, beq_self_eq_true, if_pos rfl]
    · have hne : (a.1 == e.1) = false := by
        rw [BEq.comm]
        exact name_beq_eq_false ha he
      rw [List.filter_cons, hne, ih hrest he]
      rfl

theorem slots?_object (h : (members.map (·.1)).Nodup) :
    (object members).slots? (members.map (·.1)) = some (members.map fun e => some e.2) := by
  rw [slots?, Outcome.mapM_eq_some_iff, List.forall₂_map_left_iff, List.forall₂_map_right_iff,
    List.forall₂_same]
  intro e he
  rw [filter_name_of_nodup h he]

@[simp] theorem lastWins_bool (b : Bool) : (bool b).lastWins = bool b := rfl

@[simp] theorem lastWins_string (s : String) : (string s).lastWins = string s := rfl

theorem lastWinsItems_eq_map (items : List Json) :
    lastWinsItems items = items.map lastWins := by
  induction items with
  | nil => rw [lastWinsItems, List.map_nil]
  | cons v items ih => rw [lastWinsItems, List.map_cons, ih]

theorem lastWins_array (items : List Json) :
    (array items).lastWins = array (items.map lastWins) := by
  rw [lastWins, lastWinsItems_eq_map]

theorem lastWins_array_eq_self (h : ∀ v ∈ items, v.lastWins = v) :
    (array items).lastWins = array items := by
  rw [lastWins_array, List.map_congr_left h, List.map_id']

theorem lastWinsMembers_eq_map (h : (members.map (·.1)).Nodup) :
    lastWinsMembers members = members.map fun e => (e.1, e.2.lastWins) := by
  induction members with
  | nil => rfl
  | cons e members ih =>
    obtain ⟨hname, hrest⟩ := List.nodup_cons.mp h
    have hlast : ¬ members.any (·.1 == e.1) = true := by
      rw [List.any_eq_true]
      rintro ⟨a, ha, heq⟩
      exact hname (List.mem_map.mpr ⟨a, ha, beq_iff_eq.mp heq⟩)
    rw [lastWinsMembers, if_neg hlast, ih hrest, List.map_cons]

theorem lastWins_object_eq_self (h : (members.map (·.1)).Nodup)
    (hvalues : ∀ e ∈ members, e.2.lastWins = e.2) :
    (object members).lastWins = object members := by
  have hsame : ∀ e ∈ members, (e.1, e.2.lastWins) = e := fun e he => Prod.ext rfl (hvalues e he)
  rw [lastWins, lastWinsMembers_eq_map h, List.map_congr_left hsame, List.map_id']

theorem exists_of_mem_lastWinsMembers {e : String × Json} (h : e ∈ lastWinsMembers members) :
    ∃ a ∈ members, e.2 = a.2.lastWins := by
  induction members with
  | nil =>
    rw [lastWinsMembers] at h
    cases h
  | cons a members ih =>
    obtain ⟨name, v⟩ := a
    rw [lastWinsMembers] at h
    split at h
    · obtain ⟨a, ha, he⟩ := ih h
      exact ⟨a, List.mem_cons_of_mem _ ha, he⟩
    · obtain rfl | h := List.mem_cons.mp h
      · exact ⟨(name, v), List.mem_cons_self, rfl⟩
      · obtain ⟨a, ha, he⟩ := ih h
        exact ⟨a, List.mem_cons_of_mem _ ha, he⟩

mutual

/-- How many arrays and objects are open at the deepest place. -/
def depth : Json → Nat
  | .array items => depthItems items + 1
  | .object members => depthMembers members + 1
  | _ => 0

def depthItems : List Json → Nat
  | [] => 0
  | v :: vs => max v.depth (depthItems vs)

def depthMembers : List (String × Json) → Nat
  | [] => 0
  | (_, v) :: ms => max v.depth (depthMembers ms)

end

@[simp] theorem depth_bool (b : Bool) : (bool b).depth = 0 := rfl

@[simp] theorem depth_string (s : String) : (string s).depth = 0 := rfl

theorem depthItems_le_iff : depthItems items ≤ n ↔ ∀ v ∈ items, v.depth ≤ n := by
  induction items with
  | nil => simp [depthItems]
  | cons v items ih => rw [depthItems, Nat.max_le, ih, List.forall_mem_cons]

theorem depthMembers_le_iff : depthMembers members ≤ n ↔ ∀ e ∈ members, e.2.depth ≤ n := by
  induction members with
  | nil => simp [depthMembers]
  | cons e members ih => rw [depthMembers, Nat.max_le, ih, List.forall_mem_cons]

theorem depth_array_le_iff :
    (array items).depth ≤ n ↔ 0 < n ∧ ∀ v ∈ items, v.depth < n := by
  cases n with
  | zero => simp [depth]
  | succ n =>
    rw [depth, Nat.add_le_add_iff_right, depthItems_le_iff]
    constructor
    · intro h
      exact ⟨Nat.succ_pos n, fun v hv => Nat.lt_succ_of_le (h v hv)⟩
    · rintro ⟨-, h⟩ v hv
      exact Nat.le_of_lt_succ (h v hv)

theorem depth_object_le_iff :
    (object members).depth ≤ n ↔ 0 < n ∧ ∀ e ∈ members, e.2.depth < n := by
  cases n with
  | zero => simp [depth]
  | succ n =>
    rw [depth, Nat.add_le_add_iff_right, depthMembers_le_iff]
    constructor
    · intro h
      exact ⟨Nat.succ_pos n, fun e he => Nat.lt_succ_of_le (h e he)⟩
    · rintro ⟨-, h⟩ e he
      exact Nat.le_of_lt_succ (h e he)

theorem depth_lt_of_mem_array (h : v ∈ items) : v.depth < (array items).depth :=
  (depth_array_le_iff.mp (Nat.le_refl _)).2 v h

theorem depth_lt_of_mem_object {e : String × Json} (h : e ∈ members) :
    e.2.depth < (object members).depth :=
  (depth_object_le_iff.mp (Nat.le_refl _)).2 e h

theorem depth_lt_of_lookup (h : members.lookup name = some v) :
    v.depth < (object members).depth := by
  obtain ⟨before, after, heq, -⟩ := List.lookup_eq_some_iff.mp h
  have hmem : (name, v) ∈ members := by
    rw [heq]
    exact List.mem_append_right _ List.mem_cons_self
  exact depth_lt_of_mem_object hmem

theorem depth_lastWins_le (j : Json) : j.lastWins.depth ≤ j.depth := by
  cases j with
  | array items =>
    rw [lastWins_array, depth_array_le_iff, List.forall_mem_map]
    refine ⟨Nat.succ_pos _, fun v hv => ?_⟩
    have hlt := depth_lt_of_mem_array hv
    exact Nat.lt_of_le_of_lt (depth_lastWins_le v) hlt
  | object members =>
    rw [lastWins, depth_object_le_iff]
    refine ⟨Nat.succ_pos _, fun e he => ?_⟩
    obtain ⟨a, ha, heq⟩ := exists_of_mem_lastWinsMembers he
    have hlt := depth_lt_of_mem_object ha
    rw [heq]
    exact Nat.lt_of_le_of_lt (depth_lastWins_le a.2) hlt
  | _ => simp [lastWins]
termination_by j.depth

theorem depth_lt_of_mem_slots? {slots : List (Option Json)} (h : j.slots? names = some slots)
    (hv : some v ∈ slots) : v.depth < j.depth := by
  rw [slots?.eq_def] at h
  split at h
  next items =>
    obtain ⟨-, h⟩ := Option.ite_none_right_eq_some.mp h
    cases h
    have hitem : v ∈ items := by simpa using hv
    exact depth_lt_of_mem_array hitem
  next members =>
    obtain ⟨name, -, hname⟩ := Outcome.exists_of_mem_forall₂ (Outcome.mapM_eq_some_iff.mp h) hv
    split at hname
    next => cases hname
    next hf =>
      cases hname
      exact depth_lt_of_mem_object (mem_of_filter_eq_singleton hf)
    next => cases hname
  next => cases h

end SchemaProjection.Json
