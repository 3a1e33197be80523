import SchemaProjection.Proofs.FilePath
import SchemaProjection.Proofs.Generation

namespace SchemaProjection.Placement

open FilePath

variable {s : Schema} {c : Configuration} {files : List GeneratedFile} {f : GeneratedFile}

theorem notMem_toList_packageSegments {seg : String} (h : seg ∈ c.packageSegments) :
    '.' ∉ seg.toList := by
  intro hm
  have hs := ((Text.mem_parts h).2 '.' hm).2
  exact absurd hs (by decide)

theorem back_notMem_parts_package : ".." ∉ parts (ofParts c.packageSegments) := by
  intro h
  obtain ⟨seg, hseg, hm⟩ := mem_parts_ofParts h
  have hdot := ((Text.mem_parts hm).2 '.' (by decide)).1
  exact notMem_toList_packageSegments hseg hdot

theorem isAbsolute_fileName_eq_false (d : Domain) : isAbsolute (d.module ++ ".rs") = false := by
  cases d <;> decide +kernel

theorem parts_fileName (d : Domain) : parts (d.module ++ ".rs") = [d.module ++ ".rs"] := by
  cases d <;> rfl

theorem fileName_ne_dots (d : Domain) : d.module ++ ".rs" ≠ "." ∧ d.module ++ ".rs" ≠ ".." := by
  cases d <;> decide

theorem filePath_of_mem_files (h : (s.generate c).outcome = .ok files) (hf : f ∈ files) :
    ∃ d : Domain, f.path = push (ofParts c.packageSegments) (d.module ++ ".rs") := by
  obtain ⟨d, u, hu, hfile⟩ := Schema.exists_unit_of_mem_files h hf
  obtain ⟨hd, hp⟩ := Schema.package_of_unit? hu
  obtain ⟨contents, -, rfl⟩ := Outcome.map_eq_ok_iff.mp hfile
  exact ⟨d, by rw [← hd, ← hp]; rfl⟩

/-- No file is above the output directory, and all are below it, whichever directory that is,
unless a part of the package begins with a slash. -/
theorem forall_isBelow_iff_package (h : (s.generate c).outcome = .ok files) (hf : f ∈ files) :
    ".." ∉ parts f.path ∧
    (isAbsolute f.path = true ↔ ∃ seg ∈ c.packageSegments, isAbsolute seg = true) ∧
    ((∀ dir, IsBelow dir (push dir f.path)) ↔
      ∀ seg ∈ c.packageSegments, isAbsolute seg = false) := by
  obtain ⟨d, hpath⟩ := filePath_of_mem_files h hf
  have hparts : parts f.path = parts (ofParts c.packageSegments) ++ [d.module ++ ".rs"] := by
    rw [hpath, parts_push (isAbsolute_fileName_eq_false d), parts_fileName]
  have habs : isAbsolute f.path = c.packageSegments.any isAbsolute := by
    rw [hpath, isAbsolute_push, isAbsolute_fileName_eq_false, Bool.false_or, isAbsolute_ofParts]
  have hback : ".." ∉ parts f.path := by
    rw [hparts, List.mem_append, List.mem_singleton, not_or]
    exact ⟨back_notMem_parts_package, (fileName_ne_dots d).2.symm⟩
  have hsteps : steps f.path ≠ [] := by
    refine List.ne_nil_of_mem (a := d.module ++ ".rs") (List.mem_filter.mpr ⟨?_, ?_⟩)
    · simp [hparts]
    · simpa using (fileName_ne_dots d).1
  refine ⟨hback, ?_, ?_⟩
  · rw [habs, List.any_eq_true]
  · rw [forall_isBelow_push_iff hsteps hback, habs, List.any_eq_false]
    simp only [Bool.not_eq_true]

def colored : Schema :=
  .ofCollections [{ id := "t", key := "color" }] []

def rooted : Configuration := { packageName := "/etc" }

theorem exists_isAbsolute_colored_rooted :
    ∃ files, ∃ f ∈ files, (colored.generate rooted).outcome = .ok files ∧
      isAbsolute f.path = true ∧ ".." ∉ parts f.path ∧ ∃ dir, ¬ IsBelow dir (push dir f.path) := by
  obtain ⟨hback, habs, hbelow⟩ := forall_isBelow_iff_package
    (show (colored.generate rooted).outcome = .ok _ from rfl) List.mem_cons_self
  have hseg : ∃ seg ∈ rooted.packageSegments, isAbsolute seg = true :=
    ⟨"/etc", List.mem_cons_self, by decide +kernel⟩
  refine ⟨_, _, List.mem_cons_self, rfl, habs.mpr hseg, hback, ?_⟩
  by_contra hn
  obtain ⟨seg, hm, ha⟩ := hseg
  have hf := hbelow.mp (not_exists_not.mp hn) seg hm
  rw [hf] at ha
  cases ha

end SchemaProjection.Placement
