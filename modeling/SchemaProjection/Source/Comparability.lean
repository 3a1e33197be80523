import SchemaProjection.Output.Class

namespace SchemaProjection.Source

def mentions (names : List String) : Shape → Bool
  | .generated className => names.contains className
  | .set _ element => mentions names element
  | _ => false

def addIfMentions (names : List String) (c : OutputClass) : List String :=
  if !names.contains c.name && c.fields.any (mentions names ·.type.shape) then c.name :: names
  else names

/-- Goes through the classes once, adding each that mentions a name found so far. -/
def grow (classes : List OutputClass) (names : List String) : List String :=
  classes.foldl addIfMentions names

theorem addIfMentions_cases (names : List String) (c : OutputClass) :
    addIfMentions names c = names ∨
      (c.name ∉ names ∧ addIfMentions names c = c.name :: names) := by
  rw [addIfMentions]
  split
  next h => simp_all
  next => exact .inl rfl

theorem subset_grow (classes : List OutputClass) (names : List String) :
    names ⊆ grow classes names := by
  induction classes generalizing names with
  | nil => exact List.Subset.refl _
  | cons c cs ih =>
    refine List.Subset.trans ?_ (ih _)
    rcases addIfMentions_cases names c with h | ⟨_, h⟩ <;> rw [h]
    · exact List.Subset.refl _
    · exact List.subset_cons_self _ _

theorem grow_eq_or_exists (classes : List OutputClass) (names : List String) :
    grow classes names = names ∨
      ∃ c ∈ classes, c.name ∉ names ∧ c.name ∈ grow classes names := by
  induction classes generalizing names with
  | nil => exact .inl rfl
  | cons c cs ih =>
    rcases addIfMentions_cases names c with h | ⟨hn, h⟩
    · rcases ih names with he | ⟨d, hd, hdn, hdg⟩
      · exact .inl (by rw [grow, List.foldl_cons, h]; exact he)
      · exact .inr ⟨d, List.mem_cons_of_mem _ hd, hdn, by rw [grow, List.foldl_cons, h]; exact hdg⟩
    · refine .inr ⟨c, List.mem_cons_self, hn, ?_⟩
      rw [grow, List.foldl_cons, h]
      exact subset_grow cs _ List.mem_cons_self

def outside (classes : List OutputClass) (names : List String) : Nat :=
  classes.countP (!names.contains ·.name)

theorem countP_lt_of_mem {α : Type} {p q : α → Bool} {xs : List α} (h : ∀ x, p x → q x) {a : α}
    (ha : a ∈ xs) (hp : p a = false) (hq : q a = true) : xs.countP p < xs.countP q := by
  induction xs with
  | nil => simp at ha
  | cons x xs ih =>
    rcases List.mem_cons.1 ha with rfl | ha
    · have := List.countP_mono_left (l := xs) fun x _ => h x
      simp [hp, hq]
      omega
    · have := ih ha
      have hx := h x
      rw [List.countP_cons, List.countP_cons]
      cases hpx : p x <;> cases hqx : q x <;> simp_all
      omega

theorem outside_grow_lt {classes : List OutputClass} {names : List String}
    (h : grow classes names ≠ names) :
    outside classes (grow classes names) < outside classes names := by
  obtain ⟨c, hc, hn, hg⟩ := (grow_eq_or_exists classes names).resolve_left h
  refine countP_lt_of_mem (fun d hd => ?_) hc (by simpa using hg) (by simpa using hn)
  have hsub := subset_grow classes names
  simp only [Bool.not_eq_true', List.contains_eq_mem, decide_eq_false_iff_not] at hd ⊢
  exact fun hm => hd (hsub hm)

def saturate (classes : List OutputClass) (names : List String) : List String :=
  if grow classes names = names then names else saturate classes (grow classes names)
termination_by outside classes names
decreasing_by exact outside_grow_lt ‹_›

def withoutEquality (classes : List OutputClass) : List String :=
  saturate classes ((classes.filter (·.equality == .marker)).map (·.name))

end SchemaProjection.Source
