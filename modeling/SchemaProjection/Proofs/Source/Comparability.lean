import Mathlib.Logic.Relation
import Mathlib.Order.Bounds.Basic
import SchemaProjection.Proofs.Mapping
import SchemaProjection.Source.Comparability

namespace SchemaProjection.Source

variable {classes : List OutputClass} {names : List String} {n : String} {c : OutputClass}
  {shape : Shape} {S : Set String}

/-- Some field of the class names it, itself or inside sets. -/
def Mentions (c : OutputClass) (n : String) : Prop :=
  ∃ f ∈ c.fields, f.type.shape.leaf = .generated n

/-- What is in such a set for one of two reasons: that it is a marker, or that it mentions a
member. -/
structure ClosedUnderMention (classes : List OutputClass) (S : Set String) : Prop where
  marker : ∀ c ∈ classes, c.equality = .marker → c.name ∈ S
  mention : ∀ c ∈ classes, ∀ n ∈ S, Mentions c n → c.name ∈ S

theorem mentions_iff : mentions names shape = true ↔ ∃ n ∈ names, shape.leaf = .generated n := by
  induction shape with
  | set nullable element ih => exact ih
  | generated m => simp [mentions, Shape.leaf]
  | _ => simp [mentions, Shape.leaf]

theorem any_mentions_iff :
    (c.fields.any (mentions names ·.type.shape)) = true ↔ ∃ n ∈ names, Mentions c n := by
  rw [List.any_eq_true]
  constructor
  · rintro ⟨f, hf, h⟩
    obtain ⟨n, hn, hl⟩ := mentions_iff.mp h
    exact ⟨n, hn, f, hf, hl⟩
  · rintro ⟨n, hn, f, hf, hl⟩
    exact ⟨f, hf, mentions_iff.mpr ⟨n, hn, hl⟩⟩

theorem addIfMentions_of_mentions (hn : n ∈ names) (hm : Mentions c n) (hc : c.name ∉ names) :
    addIfMentions names c = c.name :: names := by
  rw [addIfMentions, any_mentions_iff.mpr ⟨n, hn, hm⟩]
  simp [hc]

theorem addIfMentions_subset (hS : ∀ n ∈ S, Mentions c n → c.name ∈ S)
    (h : ∀ n ∈ names, n ∈ S) : ∀ n ∈ addIfMentions names c, n ∈ S := by
  rw [addIfMentions]
  split
  next hadd =>
    rw [Bool.and_eq_true, any_mentions_iff] at hadd
    obtain ⟨m, hm, hmention⟩ := hadd.2
    exact List.forall_mem_cons.mpr ⟨hS m (h m hm) hmention, h⟩
  next => exact h

theorem grow_subset (hS : ∀ c ∈ classes, ∀ n ∈ S, Mentions c n → c.name ∈ S)
    (h : ∀ n ∈ names, n ∈ S) : ∀ n ∈ grow classes names, n ∈ S := by
  induction classes generalizing names with
  | nil => exact h
  | cons c cs ih =>
    obtain ⟨hc, hcs⟩ := List.forall_mem_cons.mp hS
    exact ih hcs (addIfMentions_subset hc h)

theorem saturate_subset (hS : ∀ c ∈ classes, ∀ n ∈ S, Mentions c n → c.name ∈ S)
    (h : ∀ n ∈ names, n ∈ S) : ∀ n ∈ saturate classes names, n ∈ S := by
  fun_induction saturate classes names with
  | case1 names hg => exact h
  | case2 names hg ih => exact ih (grow_subset hS h)

theorem subset_saturate (classes : List OutputClass) (names : List String) :
    names ⊆ saturate classes names := by
  fun_induction saturate classes names with
  | case1 names hg => exact List.Subset.refl names
  | case2 names hg ih => exact List.Subset.trans (subset_grow classes names) ih

theorem grow_saturate (classes : List OutputClass) (names : List String) :
    grow classes (saturate classes names) = saturate classes names := by
  fun_induction saturate classes names with
  | case1 names hg => exact hg
  | case2 names hg ih => exact ih

theorem mem_of_grow_eq (h : grow classes names = names) (hc : c ∈ classes) (hn : n ∈ names)
    (hm : Mentions c n) : c.name ∈ names := by
  induction classes with
  | nil => cases hc
  | cons d ds ih =>
    rw [grow, List.foldl_cons] at h
    obtain hd | ⟨hd, hadd⟩ := addIfMentions_cases names d
    · rw [hd] at h
      obtain rfl | hc := List.mem_cons.mp hc
      · by_contra hnot
        rw [addIfMentions_of_mentions hn hm hnot] at hd
        exact List.cons_ne_self _ _ hd
      · exact ih h hc
    · rw [hadd] at h
      have hsub := subset_grow ds (d.name :: names)
      rw [grow, h] at hsub
      exact absurd (hsub List.mem_cons_self) hd

theorem isLeast_withoutEquality (classes : List OutputClass) :
    IsLeast {S | ClosedUnderMention classes S} {n | n ∈ withoutEquality classes} := by
  refine ⟨⟨fun c hc hm => ?_, fun c hc n hn hm => ?_⟩, fun S hS n hn => ?_⟩
  · apply subset_saturate
    exact List.mem_map_of_mem (List.mem_filter.mpr ⟨hc, by simp [hm]⟩)
  · exact mem_of_grow_eq (grow_saturate _ _) hc hn hm
  · refine saturate_subset hS.mention (fun m hm => ?_) n hn
    obtain ⟨c, hc, rfl⟩ := List.mem_map.mp hm
    obtain ⟨hc, he⟩ := List.mem_filter.mp hc
    exact hS.marker c hc (by simpa using he)

def Refers (classes : List OutputClass) (a b : String) : Prop :=
  ∃ c ∈ classes, c.name = a ∧ Mentions c b

/-- A marker can be reached from the name. -/
def ReachesMarker (classes : List OutputClass) (n : String) : Prop :=
  ∃ m ∈ classes, m.equality = .marker ∧ Relation.ReflTransGen (Refers classes) n m.name

theorem closedUnderMention_reachesMarker (classes : List OutputClass) :
    ClosedUnderMention classes {n | ReachesMarker classes n} := by
  refine ⟨fun c hc hm => ⟨c, hc, hm, .refl⟩, ?_⟩
  rintro c hc n ⟨m, hmem, hm, hpath⟩ hn
  exact ⟨m, hmem, hm, .head ⟨c, hc, rfl, hn⟩ hpath⟩

theorem mem_of_reachesMarker (hS : ClosedUnderMention classes S) (h : ReachesMarker classes n) :
    n ∈ S := by
  obtain ⟨m, hmem, hm, hpath⟩ := h
  induction hpath using Relation.ReflTransGen.head_induction_on with
  | refl => exact hS.marker m hmem hm
  | head hstep _ ih =>
    obtain ⟨c, hc, rfl, hn⟩ := hstep
    exact hS.mention c hc _ ih hn

theorem mem_withoutEquality_iff : n ∈ withoutEquality classes ↔ ReachesMarker classes n :=
  ⟨fun h => (isLeast_withoutEquality classes).2 (closedUnderMention_reachesMarker classes) h,
    mem_of_reachesMarker (isLeast_withoutEquality classes).1⟩

end SchemaProjection.Source
