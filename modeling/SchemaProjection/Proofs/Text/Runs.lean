import Mathlib.Data.List.Perm.Basic
import Mathlib.Data.List.TakeWhile
import SchemaProjection.Proofs.Text.Parts

namespace SchemaProjection.Text

/-- A stretch of a text, with what comes before and after it. -/
@[ext]
structure Stretch where
  before : List Char
  run : List Char
  after : List Char

/-- No separator is in the stretch, and on neither side does it go on without one. -/
structure IsRun (isSeparator : Char → Bool) (cs : List Char) (p : Stretch) : Prop where
  whole : p.before ++ p.run ++ p.after = cs
  notEmpty : p.run ≠ []
  inside : ∀ x ∈ p.run, isSeparator x = false
  left : ∀ x, p.before.getLast? = some x → isSeparator x = true
  right : ∀ x, p.after.head? = some x → isSeparator x = true

/-- All the runs of a text, from left to right. -/
def AreRuns (isSeparator : Char → Bool) (cs : List Char) (runs : List (List Char)) : Prop :=
  ∃ stretches : List Stretch, stretches.Pairwise (·.before.length < ·.before.length) ∧
    (∀ p, p ∈ stretches ↔ IsRun isSeparator cs p) ∧ stretches.map (·.run) = runs

variable {isSeparator : Char → Bool} {cs gap run rest : List Char} {p q : Stretch}
  {runs others : List (List Char)}

theorem nodup_stretches {stretches : List Stretch}
    (h : stretches.Pairwise (·.before.length < ·.before.length)) : stretches.Nodup := by
  refine h.imp fun hlt he => ?_
  subst he
  exact Nat.lt_irrefl _ hlt

theorem AreRuns.unique (h : AreRuns isSeparator cs runs) (h' : AreRuns isSeparator cs others) :
    runs = others := by
  obtain ⟨stretches, hsorted, hmem, rfl⟩ := h
  obtain ⟨stretches', hsorted', hmem', rfl⟩ := h'
  have hperm : stretches.Perm stretches' :=
    (List.perm_ext_iff_of_nodup (nodup_stretches hsorted) (nodup_stretches hsorted')).mpr
      fun p => (hmem p).trans (hmem' p).symm
  rw [hperm.eq_of_pairwise (fun _ _ _ _ hab hba => absurd hba (Nat.lt_asymm hab)) hsorted hsorted']

namespace IsRun

theorem exists_head (h : IsRun isSeparator cs p) :
    ∃ x xs, p.run = x :: xs ∧ isSeparator x = false := by
  obtain ⟨x, xs, hx⟩ := List.exists_cons_of_ne_nil h.notEmpty
  exact ⟨x, xs, hx, h.inside x (by rw [hx]; exact List.mem_cons_self)⟩

theorem takeWhile_eq (h : IsRun isSeparator cs p) :
    (p.run ++ p.after).takeWhile (!isSeparator ·) = p.run := by
  have hinside : ∀ x ∈ p.run, (!isSeparator x) = true := by simpa using h.inside
  have hafter : p.after.takeWhile (!isSeparator ·) = [] := by
    cases hcs : p.after with
    | nil => rfl
    | cons x xs => simp [h.right x (by rw [hcs]; rfl)]
  rw [List.takeWhile_append_of_pos hinside, hafter, List.append_nil]

theorem eq_of_before (hp : IsRun isSeparator cs p) (hq : IsRun isSeparator cs q)
    (h : p.before = q.before) : p = q := by
  have hwhole : p.before ++ (p.run ++ p.after) = q.before ++ (q.run ++ q.after) := by
    rw [← List.append_assoc, ← List.append_assoc, hp.whole, hq.whole]
  rw [h, List.append_right_inj] at hwhole
  have hrun : p.run = q.run := by rw [← hp.takeWhile_eq, ← hq.takeWhile_eq, hwhole]
  rw [hrun, List.append_right_inj] at hwhole
  exact Stretch.ext h hrun hwhole

end IsRun

def Stretch.behind (start : List Char) (p : Stretch) : Stretch :=
  { p with before := start ++ p.before }

theorem isRun_behind (hfirst : IsRun isSeparator cs ⟨gap, run, rest⟩)
    (hp : IsRun isSeparator rest p) : IsRun isSeparator cs (p.behind (gap ++ run)) where
  whole := by
    rw [← hfirst.whole, ← hp.whole]
    simp only [Stretch.behind, List.append_assoc]
  notEmpty := hp.notEmpty
  inside := hp.inside
  left := by
    -- a run that began right behind the first one would be a part of it
    have hbefore : p.before ≠ [] := by
      intro hnil
      obtain ⟨x, xs, hx, hletter⟩ := hp.exists_head
      have hhead : rest.head? = some x := by rw [← hp.whole, hnil, hx]; rfl
      exact absurd (hfirst.right x hhead) (ne_true_of_eq_false hletter)
    intro x hx
    rw [Stretch.behind, List.getLast?_append_of_ne_nil _ hbefore] at hx
    exact hp.left x hx
  right := hp.right

theorem before_eq_of_append (hfirst : IsRun isSeparator cs ⟨gap, run, rest⟩)
    (hgap : ∀ x ∈ gap, isSeparator x = true) (hp : IsRun isSeparator cs p) {more : List Char}
    (hstart : gap ++ run = p.before ++ more) (hmore : more ++ rest = p.run ++ p.after) :
    p.before = gap := by
  obtain ⟨inner, hbefore, hrun⟩ | ⟨outer, houter, rfl⟩ := List.append_eq_append_iff.mp hstart
  · obtain rfl | ⟨xs, x, rfl⟩ := List.eq_nil_or_concat' inner
    · rw [hbefore, List.append_nil]
    · -- it would begin within the first run, and what stands before it is no separator
      have hsep : isSeparator x = true := by
        apply hp.left
        rw [hbefore, ← List.append_assoc, List.getLast?_concat]
      have hletter := hfirst.inside x (by simp [hrun])
      exact absurd hsep (ne_true_of_eq_false hletter)
  · cases outer with
    | nil => rw [houter, List.append_nil]
    | cons x xs =>
      -- it would begin with a separator
      obtain ⟨y, ys, hy, hletter⟩ := hp.exists_head
      rw [hy] at hmore
      obtain rfl : x = y := (List.cons.inj hmore).1
      exact absurd (hgap x (by simp [houter])) (ne_true_of_eq_false hletter)

theorem isRun_cases (hfirst : IsRun isSeparator cs ⟨gap, run, rest⟩)
    (hgap : ∀ x ∈ gap, isSeparator x = true) (hp : IsRun isSeparator cs p) :
    p = ⟨gap, run, rest⟩ ∨ ∃ q, IsRun isSeparator rest q ∧ q.behind (gap ++ run) = p := by
  have hwhole : gap ++ run ++ rest = p.before ++ (p.run ++ p.after) := by
    rw [← List.append_assoc, hp.whole, hfirst.whole]
  obtain ⟨between, hbefore, hrest⟩ | ⟨more, hstart, hmore⟩ := List.append_eq_append_iff.mp hwhole
  · right
    refine ⟨⟨between, p.run, p.after⟩, ⟨?_, hp.notEmpty, hp.inside, ?_, hp.right⟩, ?_⟩
    · rw [List.append_assoc, hrest]
    · intro x hx
      apply hp.left
      rw [hbefore, List.getLast?_append, hx]
      rfl
    · rw [Stretch.behind, ← hbefore]
  · left
    exact hp.eq_of_before hfirst (before_eq_of_append hfirst hgap hp hstart hmore.symm)

theorem eq_false_of_head?_dropWhile {f : Char → Bool} {x : Char}
    (h : (cs.dropWhile f).head? = some x) : f x = false := by
  have hnot := List.head?_dropWhile_not f cs
  rwa [h] at hnot

theorem exists_first_run (h : ¬ ∀ x ∈ cs, isSeparator x = true) :
    ∃ gap run rest, IsRun isSeparator cs ⟨gap, run, rest⟩ ∧ ∀ x ∈ gap, isSeparator x = true := by
  obtain ⟨c, tail, htail⟩ := List.exists_cons_of_ne_nil (mt List.dropWhile_eq_nil_iff.mp h)
  have hc : isSeparator c = false := eq_false_of_head?_dropWhile (by rw [htail]; rfl)
  refine ⟨cs.takeWhile isSeparator, c :: tail.takeWhile (!isSeparator ·),
    tail.dropWhile (!isSeparator ·), ⟨?_, List.cons_ne_nil _ _, ?_, ?_, ?_⟩,
    fun x => List.mem_takeWhile_imp⟩
  · rw [List.append_assoc, List.cons_append, List.takeWhile_append_dropWhile, ← htail,
      List.takeWhile_append_dropWhile]
  · exact List.forall_mem_cons.mpr ⟨hc, fun x hx => by simpa using List.mem_takeWhile_imp hx⟩
  · exact fun x hx => List.mem_takeWhile_imp (List.mem_of_getLast? hx)
  · exact fun x hx => by simpa using eq_false_of_head?_dropWhile hx

theorem partsFrom_of_first (hfirst : IsRun isSeparator cs ⟨gap, run, rest⟩)
    (hgap : ∀ x ∈ gap, isSeparator x = true) :
    partsFrom isSeparator [] cs = run :: partsFrom isSeparator [] rest := by
  have hrun : partsFrom isSeparator [] run = [run] :=
    partsFrom_of_forall hfirst.inside hfirst.notEmpty
  rw [← hfirst.whole, List.append_assoc, partsFrom_separators_append hgap]
  cases rest with
  | nil => rw [List.append_nil, hrun]; rfl
  | cons x xs =>
    have hx : isSeparator x = true := hfirst.right x rfl
    rw [partsFrom_append_cons _ _ hx, hrun, partsFrom, if_pos hx]
    rfl

theorem partsFrom_of_separators (h : ∀ x ∈ cs, isSeparator x = true) :
    partsFrom isSeparator [] cs = [] := by
  rw [← List.append_nil cs, partsFrom_separators_append h]
  rfl

theorem not_isRun_of_separators (h : ∀ x ∈ cs, isSeparator x = true) :
    ¬ IsRun isSeparator cs p := by
  intro hp
  obtain ⟨x, xs, hx, hletter⟩ := hp.exists_head
  have hmem : x ∈ cs := by simp [← hp.whole, hx]
  exact absurd (h x hmem) (ne_true_of_eq_false hletter)

theorem AreRuns.cons (hfirst : IsRun isSeparator cs ⟨gap, run, rest⟩)
    (hgap : ∀ x ∈ gap, isSeparator x = true) (h : AreRuns isSeparator rest runs) :
    AreRuns isSeparator cs (run :: runs) := by
  obtain ⟨stretches, hsorted, hmem, rfl⟩ := h
  refine ⟨⟨gap, run, rest⟩ :: stretches.map (·.behind (gap ++ run)), ?_, fun p => ?_, ?_⟩
  · rw [List.pairwise_cons, List.forall_mem_map, List.pairwise_map]
    have hrun : 0 < run.length := List.length_pos_of_ne_nil hfirst.notEmpty
    refine ⟨fun q _ => ?_, hsorted.imp fun hlt => ?_⟩
    · simp only [Stretch.behind, List.length_append]
      omega
    · simpa only [Stretch.behind, List.length_append, Nat.add_lt_add_iff_left] using hlt
  · rw [List.mem_cons, List.mem_map]
    simp only [hmem]
    constructor
    · rintro (rfl | ⟨q, hq, rfl⟩)
      · exact hfirst
      · exact isRun_behind hfirst hq
    · exact isRun_cases hfirst hgap
  · rw [List.map_cons, List.map_map]
    rfl

/-- The parts that are read off a text are its runs. -/
theorem areRuns_partsFrom (cs : List Char) :
    AreRuns isSeparator cs (partsFrom isSeparator [] cs) := by
  induction hn : cs.length using Nat.strong_induction_on generalizing cs with
  | _ n ih =>
    by_cases h : ∀ x ∈ cs, isSeparator x = true
    · rw [partsFrom_of_separators h]
      exact ⟨[], .nil, fun p => iff_of_false List.not_mem_nil (not_isRun_of_separators h), rfl⟩
    · obtain ⟨gap, run, rest, hfirst, hgap⟩ := exists_first_run h
      have hshorter : rest.length < n := by
        have hrun : 0 < run.length := List.length_pos_of_ne_nil hfirst.notEmpty
        simp only [← hn, ← hfirst.whole, List.length_append]
        omega
      rw [partsFrom_of_first hfirst hgap]
      exact .cons hfirst hgap (ih _ hshorter rest rfl)

end SchemaProjection.Text
