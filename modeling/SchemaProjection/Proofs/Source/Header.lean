import SchemaProjection.Assembly
import SchemaProjection.Proofs.Source.Classes
import SchemaProjection.Proofs.Source.Lines
import SchemaProjection.Proofs.Text.Parts

namespace SchemaProjection.Source

variable {c : Configuration} {u : OutputUnit} {text sep : String} {package : List String}

/-- A comment that documents nothing. -/
def isComment (line : String) : Bool :=
  "//".toList.isPrefixOf line.toList

/-- The text begins with two comment lines and no more, of which the second has the whole package in
it. An empty line and the import that all files have come after them. -/
def Announces (text : String) (package : List String) : Prop :=
  ∃ first second rest,
    lines text = first :: second :: "" :: "use serde::\x7bDeserialize, Serialize\x7d;" :: rest ∧
    isComment first = true ∧ isComment second = true ∧
    (".".intercalate package).toList <:+: second.toList

theorem mem_intercalate_iff {x : Char} (hx : x ∉ sep.toList) :
    x ∈ (sep.intercalate package).toList ↔ ∃ part ∈ package, x ∈ part.toList := by
  induction package with
  | nil => simp
  | cons part package ih =>
    by_cases hp : package = []
    · simp [hp]
    · rw [String.intercalate_cons_of_ne_nil hp, String.toList_append, String.toList_append,
        List.mem_append, List.mem_append, ih, or_iff_left hx]
      simp

theorem notMem_of_mem_splitOn {a : Char} {cs xs : List Char} (h : cs ∈ xs.splitOn a) :
    a ∉ cs := by
  induction xs generalizing cs with
  | nil =>
    rw [List.splitOn_nil, List.mem_singleton] at h
    rw [h]
    exact List.not_mem_nil
  | cons x xs ih =>
    rw [List.splitOn_cons_eq_if_modifyHead] at h
    split at h
    next =>
      obtain rfl | h := List.mem_cons.mp h
      · exact List.not_mem_nil
      · exact ih h
    next hx =>
      cases hxs : xs.splitOn a with
      | nil =>
        rw [hxs] at h
        cases h
      | cons first rest =>
        rw [hxs, List.modifyHead_cons] at h
        simp only [hxs, List.forall_mem_cons] at ih
        obtain rfl | h := List.mem_cons.mp h
        · rw [List.mem_cons, not_or]
          exact ⟨fun he => hx (beq_iff_eq.mpr he.symm), ih.1⟩
        · exact ih.2 cs h

theorem notMem_of_mem_lines {line : String} (h : line ∈ lines text) : '\n' ∉ line.toList := by
  obtain ⟨cs, hcs, rfl⟩ := List.mem_map.mp h
  rw [String.toList_ofList]
  exact notMem_of_mem_splitOn hcs

theorem unbroken_headerLines (d : Domain) (h : ∀ part ∈ package, '\n' ∉ part.toList) :
    ∀ line ∈ headerLines d package, '\n' ∉ line.toList := by
  have hlabel : '\n' ∉ d.label.toList := by
    cases d <;> decide
  have hpackage : '\n' ∉ (".".intercalate package).toList := by
    rw [mem_intercalate_iff (by decide)]
    rintro ⟨part, hpart, hx⟩
    exact h part hpart hx
  have hsecond : '\n' ∉ ("// Typed " ++ d.label ++ " projections for package `" ++
      ".".intercalate package ++ "`.").toList := by
    simp only [String.toList_append, List.mem_append, hlabel, hpackage, or_false]
    decide
  simp only [headerLines, List.forall_mem_cons]
  exact ⟨by decide, hsecond, by decide, by decide, List.forall_mem_nil _⟩

theorem exists_rest_of_render (h : render c u = .ok text) :
    ∃ rest, text = ofLines (headerLines u.domain u.package) ++ rest := by
  rw [render_eq_map, Outcome.map_eq_ok_iff] at h
  obtain ⟨body, -, rfl⟩ := h
  refine ⟨ofLines (useLines (body.run ∅).2 ++ ([""] ++ (body.run ∅).1)), ?_⟩
  rw [fileText, ← ofLines_append, List.append_assoc, List.append_assoc]

theorem isComment_of_append {line rest : String} (h : isComment line = true) :
    isComment (line ++ rest) = true := by
  rw [isComment, List.isPrefixOf_iff_prefix] at h ⊢
  rw [String.toList_append]
  exact h.trans (List.prefix_append _ _)

theorem announces_of_unbroken (h : render c u = .ok text)
    (hpackage : ∀ part ∈ u.package, '\n' ∉ part.toList) : Announces text u.package := by
  obtain ⟨rest, rfl⟩ := exists_rest_of_render h
  rw [Announces, lines_ofLines_append (unbroken_headerLines u.domain hpackage)]
  refine ⟨_, _, _, rfl, by decide, ?_, ?_⟩
  · rw [String.append_assoc, String.append_assoc, String.append_assoc]
    exact isComment_of_append (by decide)
  · rw [String.toList_append, String.toList_append]
    exact List.infix_append _ _ _

theorem unbroken_of_announces (h : Announces text package) :
    ∀ part ∈ package, '\n' ∉ part.toList := by
  obtain ⟨first, second, rest, hlines, -, -, hpackage⟩ := h
  intro part hpart hx
  have hsecond : second ∈ lines text := by
    rw [hlines]
    exact List.mem_cons_of_mem _ List.mem_cons_self
  exact notMem_of_mem_lines hsecond
    (hpackage.subset ((mem_intercalate_iff (by decide)).mpr ⟨part, hpart, hx⟩))

/-- A line break is the only thing in a package that its comment cannot hold, and the parts of a
package name have all the line breaks of the name. -/
theorem announces_iff_unbroken (h : render c u = .ok text) :
    (Announces text u.package ↔ ∀ part ∈ u.package, '\n' ∉ part.toList) ∧
      (u.package = c.packageSegments →
        (Announces text u.package ↔ '\n' ∉ c.packageName.toList)) := by
  have hunbroken : Announces text u.package ↔ ∀ part ∈ u.package, '\n' ∉ part.toList :=
    ⟨unbroken_of_announces, announces_of_unbroken h⟩
  refine ⟨hunbroken, fun hpackage => ?_⟩
  have hparts := Text.exists_mem_parts_iff (s := c.packageName)
    (show Configuration.isSeparator '\n' = false by decide)
  rw [hunbroken, hpackage, ← hparts]
  exact ⟨fun hall ⟨part, hpart, hx⟩ => hall part hpart hx, fun hnot part hpart hx =>
    hnot ⟨part, hpart, hx⟩⟩

def torn : Configuration := { packageName := "a\nb" }

theorem getElem?_lines_torn (h : render torn u = .ok text) (hd : u.domain = .customFields)
    (hpackage : u.package = torn.packageSegments) : (lines text)[2]? = some "b`." := by
  obtain ⟨rest, rfl⟩ := exists_rest_of_render h
  have hhead : ofLines (headerLines u.domain u.package) =
      ofLines
        ["// Code generated by typedfields. DO NOT EDIT.",
         "// Typed custom field type projections for package `a", "b`.", "",
         "use serde::\x7bDeserialize, Serialize\x7d;"] := by
    rw [hd, hpackage]
    decide +kernel
  rw [hhead, lines_ofLines_append (by decide)]
  rfl

/-- The comment ends within the package, and the end of the package is a line of source. -/
theorem not_announces_torn :
    ∃ u text, (assembleCustomFields torn [{ id := "t", key := "color" }]).outcome = .ok u ∧
      render torn u = .ok text ∧ ¬ Announces text u.package ∧ (lines text)[2]? = some "b`." := by
  obtain ⟨u, hu, hd, hpackage, text, h⟩ :
      ∃ u, (assembleCustomFields torn [{ id := "t", key := "color" }]).outcome = .ok u ∧
        u.domain = .customFields ∧ u.package = torn.packageSegments ∧
        ∃ text, render torn u = .ok text :=
    ⟨_, rfl, rfl, rfl, _, rfl⟩
  refine ⟨u, text, hu, h, ?_, getElem?_lines_torn h hd hpackage⟩
  rw [(announces_iff_unbroken h).2 hpackage]
  decide +kernel

end SchemaProjection.Source
