import Mathlib.Data.List.Forall2
import Mathlib.Data.List.Induction
import SchemaProjection.Run

namespace SchemaProjection.Outcome

variable {ε α β γ : Type} {R : α → β → Prop}

@[simp] theorem ok_bind (a : α) (f : α → Except ε β) : Except.ok a >>= f = f a := rfl

@[simp] theorem error_bind (e : ε) (f : α → Except ε β) :
    (Except.error e : Except ε α) >>= f = .error e := rfl

theorem exists_eq_ok_iff {x : Except ε α} : (∃ a, x = .ok a) ↔ ∀ e, x ≠ .error e := by
  cases x <;> simp

theorem bind_eq_ok_iff {x : Except ε α} {f : α → Except ε β} {b : β} :
    x >>= f = .ok b ↔ ∃ a, x = .ok a ∧ f a = .ok b := by
  cases x <;> simp [bind, Except.bind]

theorem bind_eq_error_iff {x : Except ε α} {f : α → Except ε β} {e : ε} :
    x >>= f = .error e ↔ x = .error e ∨ ∃ a, x = .ok a ∧ f a = .error e := by
  cases x <;> simp [bind, Except.bind]

theorem check_bind_eq_ok_iff {x : Except ε Unit} {f : Unit → Except ε β} {b : β} :
    x >>= f = .ok b ↔ x = .ok () ∧ f () = .ok b := by
  cases x <;> simp [bind, Except.bind]

theorem check_bind_eq_error_iff {x : Except ε Unit} {f : Unit → Except ε β} {e : ε} :
    x >>= f = .error e ↔ x = .error e ∨ x = .ok () ∧ f () = .error e := by
  cases x <;> simp [bind, Except.bind]

theorem throw_if_bind {p : Prop} [Decidable p] {e : ε} {f : PUnit → Except ε β}
    {g : β → Except ε γ} :
    (if p then throw e >>= f else f ()) >>= g =
      if p then throw e >>= fun u => f u >>= g else f () >>= g := by
  split <;> rfl

theorem throw_if_eq_ok_iff {p : Prop} [Decidable p] {e : ε} {f : PUnit → Except ε β} {b : β} :
    (if p then throw e >>= f else f ()) = .ok b ↔ ¬ p ∧ f () = .ok b := by
  split
  next h => simp [h, throw, throwThe, MonadExceptOf.throw, bind, Except.bind]
  next h => simp [h]

theorem throw_if_eq_error_iff {p : Prop} [Decidable p] {e e' : ε} {f : PUnit → Except ε β} :
    (if p then throw e >>= f else f ()) = .error e' ↔ p ∧ e' = e ∨ ¬ p ∧ f () = .error e' := by
  split
  next h => simp [h, throw, throwThe, MonadExceptOf.throw, bind, Except.bind, eq_comm]
  next h => simp [h]

theorem map_eq_ok_iff {x : Except ε α} {f : α → β} {b : β} :
    x.map f = .ok b ↔ ∃ a, x = .ok a ∧ f a = b := by
  cases x <;> simp [Except.map]

theorem exists_map_eq_ok_iff {x : Except ε α} {f : α → β} :
    (∃ b, x.map f = .ok b) ↔ ∃ a, x = .ok a := by
  cases x <;> simp [Except.map]

theorem map_eq_error_iff {x : Except ε α} {f : α → β} {e : ε} :
    x.map f = .error e ↔ x = .error e := by
  cases x <;> simp [Except.map]

theorem pure_eq_ok_iff {a b : α} : (pure a : Except ε α) = .ok b ↔ a = b :=
  ⟨Except.ok.inj, congrArg _⟩

theorem mapM_eq_ok_iff {f : α → Except ε β} {xs : List α} {ys : List β} :
    xs.mapM f = .ok ys ↔ List.Forall₂ (fun x y => f x = .ok y) xs ys := by
  induction xs generalizing ys with
  | nil =>
    rw [List.mapM_nil, pure_eq_ok_iff, List.forall₂_nil_left_iff]
    exact eq_comm
  | cons x xs ih =>
    rw [List.mapM_cons, bind_eq_ok_iff, List.forall₂_cons_left_iff]
    constructor
    · rintro ⟨y, hy, h⟩
      obtain ⟨zs, hz, he⟩ := bind_eq_ok_iff.mp h
      exact ⟨y, zs, hy, ih.mp hz, (pure_eq_ok_iff.mp he).symm⟩
    · rintro ⟨y, zs, hy, hz, rfl⟩
      exact ⟨y, hy, bind_eq_ok_iff.mpr ⟨zs, ih.mpr hz, rfl⟩⟩

theorem mapM_eq_some_iff {f : α → Option β} {xs : List α} {ys : List β} :
    xs.mapM f = some ys ↔ List.Forall₂ (fun x y => f x = some y) xs ys := by
  induction xs generalizing ys with
  | nil =>
    rw [List.mapM_nil, List.forall₂_nil_left_iff, Option.pure_def, Option.some.injEq]
    exact eq_comm
  | cons x xs ih =>
    rw [List.mapM_cons, List.forall₂_cons_left_iff]
    simp only [Option.bind_eq_bind, Option.bind_eq_some_iff, Option.pure_def, Option.some.injEq, ih]
    constructor
    · rintro ⟨y, hy, zs, hz, rfl⟩
      exact ⟨y, zs, hy, hz, rfl⟩
    · rintro ⟨y, zs, hy, hz, rfl⟩
      exact ⟨y, hy, zs, hz, rfl⟩

theorem exists_forall₂_iff {xs : List α} :
    (∃ ys, List.Forall₂ R xs ys) ↔ ∀ x ∈ xs, ∃ y, R x y := by
  induction xs with
  | nil => exact iff_of_true ⟨[], .nil⟩ (List.forall_mem_nil _)
  | cons x xs ih =>
    simp only [List.forall₂_cons_left_iff]
    rw [List.forall_mem_cons, ← ih]
    constructor
    · rintro ⟨_, y, ys, hy, hys, -⟩
      exact ⟨⟨y, hy⟩, ys, hys⟩
    · rintro ⟨⟨y, hy⟩, ys, hys⟩
      exact ⟨y :: ys, y, ys, hy, hys, rfl⟩

theorem mapM_eq_none_iff {f : α → Option β} {xs : List α} :
    xs.mapM f = none ↔ ∃ x ∈ xs, f x = none := by
  rw [← not_iff_not, ← ne_eq, Option.ne_none_iff_exists']
  simp only [mapM_eq_some_iff, exists_forall₂_iff, not_exists, not_and,
    ← Option.ne_none_iff_exists', ne_eq]

theorem exists_mapM_eq_ok_iff {f : α → Except ε β} {xs : List α} :
    (∃ ys, xs.mapM f = .ok ys) ↔ ∀ x ∈ xs, ∃ y, f x = .ok y := by
  simp only [mapM_eq_ok_iff]
  exact exists_forall₂_iff

/-- The first element that fails decides the error. -/
theorem mapM_eq_error_iff {f : α → Except ε β} {xs : List α} {e : ε} :
    xs.mapM f = .error e ↔
      ∃ before x after, xs = before ++ x :: after ∧ (∀ y ∈ before, ∃ b, f y = .ok b) ∧
        f x = .error e := by
  induction xs with
  | nil =>
    rw [List.mapM_nil]
    constructor
    · intro h
      cases h
    · rintro ⟨before, x, after, h, -, -⟩
      exact absurd h.symm (by simp)
  | cons x xs ih =>
    rw [List.mapM_cons, bind_eq_error_iff]
    constructor
    · rintro (h | ⟨b, hb, h⟩)
      · exact ⟨[], x, xs, rfl, by simp, h⟩
      · obtain h | ⟨_, -, h⟩ := bind_eq_error_iff.mp h
        · obtain ⟨before, y, after, rfl, ho, he⟩ := ih.mp h
          exact ⟨x :: before, y, after, rfl, List.forall_mem_cons.mpr ⟨⟨b, hb⟩, ho⟩, he⟩
        · cases h
    · rintro ⟨before, y, after, h, ho, he⟩
      cases before with
      | nil =>
        obtain ⟨rfl, rfl⟩ := List.cons.inj h
        exact .inl he
      | cons z before =>
        obtain ⟨rfl, rfl⟩ := List.cons.inj h
        obtain ⟨⟨b, hb⟩, ho⟩ := List.forall_mem_cons.mp ho
        exact .inr ⟨b, hb, bind_eq_error_iff.mpr (.inl (ih.mpr ⟨before, y, after, rfl, ho, he⟩))⟩

/-- A check that goes on from its result for a shorter list fails at one element, the first at which
it does. -/
theorem scan_eq_error_iff {check : List α → Except ε Unit} {step : List α → α → Except ε Unit}
    (hnil : check [] = .ok ())
    (happend : ∀ xs x, check (xs ++ [x]) = check xs >>= fun _ => step xs x) {xs : List α} {e : ε} :
    check xs = .error e ↔
      ∃ before x after, xs = before ++ x :: after ∧ check before = .ok () ∧
        step before x = .error e := by
  induction xs using List.reverseRecOn with
  | nil =>
    rw [hnil]
    constructor
    · intro h
      cases h
    · rintro ⟨before, x, after, h, -⟩
      exact absurd h.symm (by simp)
  | append_singleton xs x ih =>
    rw [happend, check_bind_eq_error_iff, ih]
    constructor
    · rintro (⟨before, y, after, rfl, hb, hy⟩ | ⟨hxs, hx⟩)
      · exact ⟨before, y, after ++ [x], by simp, hb, hy⟩
      · exact ⟨xs, x, [], rfl, hxs, hx⟩
    · rintro ⟨before, y, after, h, hb, hy⟩
      induction after using List.reverseRecOn with
      | nil =>
        obtain ⟨rfl, rfl⟩ := List.append_singleton_inj.mp h
        exact .inr ⟨hb, hy⟩
      | append_singleton after z _ =>
        rw [← List.cons_append, ← List.append_assoc] at h
        obtain ⟨rfl, rfl⟩ := List.append_singleton_inj.mp h
        exact .inl ⟨before, y, after, rfl, hb, hy⟩

theorem getElem?_of_forall₂ {xs : List α} {ys : List β}
    (h : List.Forall₂ R xs ys) {k : Nat} {x : α} (hx : xs[k]? = some x) :
    ∃ y, ys[k]? = some y ∧ R x y := by
  induction h generalizing k with
  | nil => simp at hx
  | cons hr _ ih =>
    cases k with
    | zero =>
      simp only [List.getElem?_cons_zero, Option.some.injEq] at hx
      subst hx
      exact ⟨_, rfl, hr⟩
    | succ k => exact ih hx

theorem exists_of_mem_forall₂ {xs : List α} {ys : List β}
    (h : List.Forall₂ R xs ys) {y : β} (hy : y ∈ ys) : ∃ x ∈ xs, R x y := by
  induction h with
  | nil => cases hy
  | cons hr _ ih =>
    obtain rfl | hy := List.mem_cons.mp hy
    · exact ⟨_, List.mem_cons_self, hr⟩
    · obtain ⟨x, hx, hr⟩ := ih hy
      exact ⟨x, List.mem_cons_of_mem _ hx, hr⟩

theorem exists_forall₂_map_eq {γ : Type} {S : α → γ → Prop} {g : γ → β} {xs : List α}
    {ys : List β} (h : List.Forall₂ R xs ys)
    (hs : ∀ x ∈ xs, ∀ y, R x y → ∃ z, S x z ∧ g z = y) :
    ∃ zs, List.Forall₂ S xs zs ∧ zs.map g = ys := by
  induction h with
  | nil => exact ⟨[], .nil, rfl⟩
  | cons hr _ ih =>
    obtain ⟨hx, hxs⟩ := List.forall_mem_cons.mp hs
    obtain ⟨z, hz, rfl⟩ := hx _ hr
    obtain ⟨zs, hzs, rfl⟩ := ih hxs
    exact ⟨z :: zs, .cons hz hzs, rfl⟩

theorem map_eq_map_of_forall₂ {γ : Type} {xs : List α} {ys : List β} {g : α → γ} {k : β → γ}
    (h : List.Forall₂ R xs ys) (hr : ∀ x y, R x y → g x = k y) : xs.map g = ys.map k := by
  induction h with
  | nil => rfl
  | cons hxy _ ih => exact congrArg₂ List.cons (hr _ _ hxy) ih

theorem mapM_eq_mapM_of_forall₂ {m : Type → Type} [Monad m] [LawfulMonad m] {γ : Type}
    {xs : List α} {ys : List β} {f : α → m γ} {g : β → m γ} (h : List.Forall₂ R xs ys)
    (hr : ∀ x y, R x y → f x = g y) : xs.mapM f = ys.mapM g := by
  induction h with
  | nil => rw [List.mapM_nil, List.mapM_nil]
  | cons hxy _ ih => rw [List.mapM_cons, List.mapM_cons, hr _ _ hxy, ih]

theorem forall₂_zipWith {γ : Type} {S : α → γ → Prop} {f : α → β → γ} {xs : List α} {ys : List β}
    (h : List.Forall₂ R xs ys) (hf : ∀ x y, R x y → S x (f x y)) :
    List.Forall₂ S xs (List.zipWith f xs ys) := by
  induction h with
  | nil => exact .nil
  | cons hxy _ ih => exact .cons (hf _ _ hxy) ih

theorem map_zipWith_of_forall₂ {γ δ : Type} {f : α → β → γ} {g : γ → δ} {k : β → δ} {xs : List α}
    {ys : List β} (h : List.Forall₂ R xs ys) (hf : ∀ x y, g (f x y) = k y) :
    (List.zipWith f xs ys).map g = ys.map k := by
  induction h with
  | nil => rfl
  | cons _ _ ih => exact congrArg₂ List.cons (hf _ _) ih

end SchemaProjection.Outcome

namespace SchemaProjection.Run

variable {α β : Type}

@[simp] theorem outcome_bind (r : Run α) (f : α → Run β) :
    (r >>= f).outcome = r.outcome >>= fun a => (f a).outcome := by
  change (Run.bind r f).outcome = _
  rw [Run.bind]
  cases r.outcome <;> rfl

@[simp] theorem outcome_pure (a : α) : (pure a : Run α).outcome = .ok a := rfl

@[simp] theorem outcome_log (e : Event) : (log e).outcome = .ok () := rfl

@[simp] theorem outcome_ofExcept (x : Except GenerationError α) : (ofExcept x).outcome = x := rfl

@[simp] theorem outcome_fail (e : GenerationError) : (fail e : Run α).outcome = .error e := rfl

theorem outcome_map (f : α → β) (r : Run α) : (f <$> r).outcome = r.outcome.map f := by
  change (Run.bind r fun a => pure (f a)).outcome = _
  rw [Run.bind]
  cases r.outcome <;> rfl

@[simp] theorem ok_bind (events : List Event) (a : α) (f : α → Run β) :
    (⟨events, .ok a⟩ : Run α) >>= f = ⟨events ++ (f a).events, (f a).outcome⟩ := rfl

@[simp] theorem error_bind (events : List Event) (e : GenerationError) (f : α → Run β) :
    (⟨events, .error e⟩ : Run α) >>= f = ⟨events, .error e⟩ := rfl

theorem forM_log (xs : List α) (event : α → Event) :
    (xs.forM fun x => log (event x)) = ⟨xs.map event, .ok ()⟩ := by
  induction xs with
  | nil => rfl
  | cons x xs ih =>
    change (log (event x) >>= fun _ => xs.forM fun x => log (event x)) = _
    rw [ih]
    rfl

end SchemaProjection.Run
