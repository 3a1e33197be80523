import Mathlib.Data.List.Basic
import SchemaProjection.Source.File

namespace SchemaProjection.Source

variable {xs body : List String} {head line : String}

/-- The lines of a text. A line break at its end is followed by one more line, an empty one. -/
def lines (text : String) : List String :=
  (text.toList.splitOn '\n').map String.ofList

theorem ofLines_append (xs ys : List String) : ofLines (xs ++ ys) = ofLines xs ++ ofLines ys := by
  rw [ofLines, List.map_append, String.join_append]
  rfl

theorem lines_append (h : '\n' ∉ line.toList) (rest : String) :
    lines (line ++ "\n" ++ rest) = line :: lines rest := by
  have htext : (line ++ "\n" ++ rest).toList = line.toList ++ '\n' :: rest.toList := by
    simp [String.toList_append]
  rw [lines, htext, List.splitOn_append_cons_self_of_not_mem h, List.map_cons, String.ofList_toList]
  rfl

theorem lines_ofLines_append (h : ∀ l ∈ xs, '\n' ∉ l.toList) (rest : String) :
    lines (ofLines xs ++ rest) = xs ++ lines rest := by
  induction xs with
  | nil => rw [ofLines, List.map_nil, String.join_nil, String.empty_append, List.nil_append]
  | cons x xs ih =>
    obtain ⟨hx, hxs⟩ := List.forall_mem_cons.mp h
    have hcons : ofLines (x :: xs) = x ++ "\n" ++ ofLines xs := by
      rw [ofLines, List.map_cons, String.join_cons]
      rfl
    rw [hcons, String.append_assoc, lines_append hx, ih hxs, List.cons_append]

theorem front?_append (a b : String) (h : a ≠ "") : (a ++ b).front? = a.front? := by
  have hne : a.toList ≠ [] := fun hn => h (String.toList_eq_nil_iff.mp hn)
  rw [String.front?_eq, String.front?_eq, String.toList_append, List.head?_append_of_ne_nil _ hne]

theorem isPrefixOf_eq_false (hne : head ≠ "") (h : line.front? ≠ head.front?) :
    head.toList.isPrefixOf line.toList = false := by
  rw [Bool.eq_false_iff]
  intro hprefix
  obtain ⟨rest, hrest⟩ := List.isPrefixOf_iff_prefix.mp hprefix
  have hline : line = head ++ .ofList rest := by
    rw [← String.toList_inj, String.toList_append, String.toList_ofList, hrest]
  exact h (by rw [hline, front?_append _ _ hne])

section Front

variable {p : Option Char → Prop}

theorem front?_of_mem_indented (hnone : p none) (hspace : p (some ' ')) :
    ∀ l ∈ indented xs, p l.front? := by
  rw [indented, List.forall_mem_map]
  intro l _
  split
  next h =>
    rw [String.isEmpty_iff.mp h]
    exact hnone
  next =>
    rw [front?_append _ _ (by decide)]
    exact hspace

theorem front?_block_iff (hnone : p none) (hspace : p (some ' ')) (hclose : p (some '\x7d')) :
    (∀ l ∈ block head body, p l.front?) ↔ p head.front? := by
  have hfirst : p (head ++ " \x7b").front? ↔ p head.front? := by
    by_cases h : head = ""
    · rw [h]
      exact iff_of_true hspace hnone
    · rw [front?_append _ _ h]
  rw [block, List.cons_append, List.forall_mem_cons, List.forall_mem_append,
    List.forall_mem_singleton, hfirst]
  exact and_iff_left ⟨front?_of_mem_indented hnone hspace, hclose⟩

end Front

end SchemaProjection.Source
