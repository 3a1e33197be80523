import SchemaProjection.Files
import SchemaProjection.Proofs.FileTree

namespace SchemaProjection.GeneratedFile

open FilePath FileTree

variable {outDir : String} {t u : FileTree} {f g : GeneratedFile} {files written : List GeneratedFile}

/-- Whether the path of a file leads from any directory to something in it. -/
def IsInner (f : GeneratedFile) : Prop :=
  isAbsolute f.path = false ∧ ".." ∉ parts f.path

theorem destination_of_isInner (h : f.IsInner) :
    destination (push outDir f.path) = destination outDir ++ steps f.path :=
  destination_push h.1 h.2

theorem destination_eq_iff (hf : f.IsInner) (hg : g.IsInner) :
    destination (push outDir f.path) = destination (push outDir g.path) ↔
      steps f.path = steps g.path := by
  rw [destination_of_isInner hf, destination_of_isInner hg, List.append_cancel_left_eq]

theorem writeTo_of_ok {target : String} (h : (f.writeTo outDir t).2.outcome = .ok target) :
    target = push outDir f.path ∧ Wrote target f.contents t (f.writeTo outDir t).1 := by
  have hspec := (write_spec t (push outDir f.path) f.contents).1
  rw [writeTo] at h ⊢
  split at h
  next => cases h
  next u hw =>
    obtain rfl := Except.ok.inj h
    rw [hw] at hspec
    exact ⟨rfl, hspec rfl⟩

theorem writeTo_of_error {e : GenerationError} (h : (f.writeTo outDir t).2.outcome = .error e) :
    GrowsAlong (steps (push outDir f.path)).dropLast t (f.writeTo outDir t).1 := by
  have hspec := (write_spec t (push outDir f.path) f.contents).2
  rw [writeTo] at h ⊢
  split at h
  next u e hw =>
    rw [hw] at hspec
    exact hspec e rfl
  next => cases h

theorem exists_writeTo_eq_ok_iff :
    (∃ target, (f.writeTo outDir t).2.outcome = .ok target) ↔
      (t.write (push outDir f.path) f.contents).2 = .ok () := by
  rw [writeTo]
  split
  next hw =>
    rw [hw]
    exact iff_of_false nofun nofun
  next hw =>
    rw [hw]
    exact iff_of_true ⟨_, rfl⟩ rfl

theorem exists_writeTo_eq_ok_iff_isWritable (h : f.IsInner) (hdir : ".." ∉ parts outDir) :
    (∃ target, (f.writeTo outDir t).2.outcome = .ok target) ↔
      t.IsWritable (push outDir f.path) := by
  rw [exists_writeTo_eq_ok_iff]
  refine write_eq_ok_iff ?_
  rw [steps_push h.1, List.mem_append, not_or]
  exact ⟨back_notMem_steps hdir, back_notMem_steps h.2⟩

/-- Writes a file and, if that succeeds, puts it on the list of those written. -/
def writeNext (outDir : String) (t : FileTree) (written : List GeneratedFile) (f : GeneratedFile) :
    FileTree × List GeneratedFile :=
  match (f.writeTo outDir t).2.outcome with
  | .ok _ => ((f.writeTo outDir t).1, f :: written)
  | .error _ => ((f.writeTo outDir t).1, written)

def writeEach (outDir : String) (t : FileTree) (files : List GeneratedFile) :
    FileTree × List GeneratedFile :=
  files.foldl (fun s f => writeNext outDir s.1 s.2 f) (t, [])

/-- The last file written to a path, however the path is spelled. -/
def lastTo? (path : String) (written : List GeneratedFile) : Option GeneratedFile :=
  written.find? fun g => steps g.path == steps path

/-- Whether each path that was written gives what was written to it last. -/
def Holds (outDir : String) (t : FileTree) (written : List GeneratedFile) : Prop :=
  ∀ f ∈ written, f.IsInner ∧ ∃ last, lastTo? f.path written = some last ∧
    t.read (push outDir f.path) = .ok last.contents

theorem lastTo?_cons (path : String) (f : GeneratedFile) (written : List GeneratedFile) :
    lastTo? path (f :: written) =
      if steps f.path = steps path then some f else lastTo? path written := by
  rw [lastTo?, List.find?_cons]
  cases h : steps f.path == steps path with
  | true => rw [if_pos (beq_iff_eq.mp h)]
  | false => rw [if_neg (beq_eq_false_iff_ne.mp h), lastTo?]

theorem Holds.of_growsAlong {way : List String} (h : Holds outDir t written)
    (hg : GrowsAlong way t u) : Holds outDir u written := by
  intro f hf
  obtain ⟨hin, last, hlast, hread⟩ := h f hf
  exact ⟨hin, last, hlast, hg.read hread⟩

theorem Holds.cons (h : Holds outDir t written) (hin : f.IsInner)
    (hw : Wrote (push outDir f.path) f.contents t u) : Holds outDir u (f :: written) := by
  intro g hg
  simp only [lastTo?_cons]
  obtain rfl | hg := List.mem_cons.mp hg
  · exact ⟨hin, g, if_pos rfl, hw.read⟩
  · obtain ⟨hgin, last, hlast, hread⟩ := h g hg
    refine ⟨hgin, ?_⟩
    have hsame : destination (push outDir g.path) = destination (push outDir f.path) ↔
        steps g.path = steps f.path := destination_eq_iff hgin hin
    by_cases hs : steps f.path = steps g.path
    · exact ⟨f, if_pos hs, hw.read_of_eq (hsame.mpr hs.symm) hread⟩
    · have hne := hsame.not.mpr (Ne.symm hs)
      exact ⟨last, (if_neg hs).trans hlast, hw.read_of_ne hne hread⟩

theorem Holds.writeNext (h : Holds outDir t written) (hin : f.IsInner) :
    Holds outDir (writeNext outDir t written f).1 (writeNext outDir t written f).2 := by
  rw [GeneratedFile.writeNext]
  cases ho : (f.writeTo outDir t).2.outcome with
  | ok target =>
    obtain ⟨rfl, hw⟩ := writeTo_of_ok ho
    exact h.cons hin hw
  | error e => exact h.of_growsAlong (writeTo_of_error ho)

theorem holds_writeEach (h : ∀ f ∈ files, f.IsInner) :
    Holds outDir (writeEach outDir t files).1 (writeEach outDir t files).2 := by
  induction files using List.reverseRecOn with
  | nil => exact nofun
  | append_singleton files f ih =>
    rw [writeEach, List.foldl_concat]
    exact (ih fun g hg => h g (List.mem_append_left _ hg)).writeNext (h f (by simp))

/-- A write succeeds if nothing is in its way. It then adds its file and the missing directories on
the way to it, and one that fails adds no file. After any sequence of writes, those that failed among
them, each path that was written gives what was written to it last. -/
theorem writeTo_changes_its_file_only (outDir : String) (t : FileTree) :
    (∀ f : GeneratedFile, f.IsInner →
      (".." ∉ parts outDir → ((∃ target, (f.writeTo outDir t).2.outcome = .ok target) ↔
        t.IsWritable (push outDir f.path))) ∧
      (∀ target, (f.writeTo outDir t).2.outcome = .ok target →
        target = push outDir f.path ∧
        (f.writeTo outDir t).1.read target = .ok f.contents ∧
        (f.writeTo outDir t).1.get? (destination outDir ++ steps f.path) =
          some (.file f.contents) ∧
        ∀ names, names ≠ destination outDir ++ steps f.path →
          GrowsAt (steps target).dropLast t (f.writeTo outDir t).1 names) ∧
      ∀ e, (f.writeTo outDir t).2.outcome = .error e →
        (∀ names contents, (f.writeTo outDir t).1.get? names = some (.file contents) ↔
          t.get? names = some (.file contents)) ∧
        GrowsAlong (steps (push outDir f.path)).dropLast t (f.writeTo outDir t).1) ∧
    ∀ files : List GeneratedFile, (∀ f ∈ files, f.IsInner) →
      ∀ f ∈ (writeEach outDir t files).2,
        ∃ last, lastTo? f.path (writeEach outDir t files).2 = some last ∧
          (writeEach outDir t files).1.read (push outDir f.path) = .ok last.contents := by
  refine ⟨fun f hin => ⟨exists_writeTo_eq_ok_iff_isWritable hin, fun target ho => ?_,
    fun e ho => ?_⟩, fun files hin f hf => ?_⟩
  · obtain ⟨rfl, hw⟩ := writeTo_of_ok ho
    rw [← destination_of_isInner hin]
    exact ⟨rfl, hw.read, hw.get?_destination, hw.growsAt⟩
  · have hg := writeTo_of_error ho
    exact ⟨fun _ _ => hg.get?_eq_file_iff, hg⟩
  · exact (holds_writeEach hin f hf).2

def noted : FileTree :=
  ⟨[(["out", "note"], .file "n"), (["out"], .directory)]⟩

/-- Two spellings of one path, and between them a path that the file in the tree blocks. -/
def drafts : List GeneratedFile :=
  [⟨"a/x.rs", "1"⟩, ⟨"note/y.rs", "2"⟩, ⟨"a/./x.rs", "3"⟩]

theorem writeTo_changes_its_file_only_drafts :
    ((∀ f ∈ drafts, f.IsInner) ∧ ".." ∉ parts "out") ∧
      noted.IsWritable (push "out" "a/x.rs") ∧
      ((writeEach "out" noted drafts).1.read "out/a/x.rs" = .ok "3" ∧
        (writeEach "out" noted drafts).2 = [⟨"a/./x.rs", "3"⟩, ⟨"a/x.rs", "1"⟩]) ∧
      ∀ names contents,
        (GeneratedFile.writeTo ⟨"note/y.rs", "2"⟩ "out" noted).1.get? names =
          some (.file contents) ↔ noted.get? names = some (.file contents) := by
  have hin : ∀ f ∈ drafts, f.IsInner := by
    simp only [drafts, List.forall_mem_cons, IsInner]
    decide +kernel
  have hdir : ".." ∉ parts "out" := by decide +kernel
  have hwritten : (writeEach "out" noted drafts).2 =
      [⟨"a/./x.rs", "3"⟩, ⟨"a/x.rs", "1"⟩] := by
    simp only [writeEach, drafts, List.foldl_cons, List.foldl_nil, writeNext, writeTo, write,
      putFile, checkPath, String.contains_char_eq]
    decide +kernel
  have hfirst : (GeneratedFile.writeTo ⟨"a/x.rs", "1"⟩ "out" noted).2.outcome =
      .ok "out/a/x.rs" := by
    simp only [writeTo, write, putFile, checkPath, String.contains_char_eq]
    decide +kernel
  have hfails : (GeneratedFile.writeTo ⟨"note/y.rs", "2"⟩ "out" noted).2.outcome =
      .error (.file .exists) := by
    simp only [writeTo, write, putFile, checkPath, String.contains_char_eq]
    decide +kernel
  obtain ⟨hstep, hrun⟩ := writeTo_changes_its_file_only "out" noted
  refine ⟨⟨hin, hdir⟩, ?_, ⟨?_, hwritten⟩, ?_⟩
  · obtain ⟨hwritable, -⟩ := hstep ⟨"a/x.rs", "1"⟩ (hin _ (by simp [drafts]))
    exact (hwritable hdir).mp ⟨_, hfirst⟩
  · obtain ⟨last, hlast, hread⟩ := hrun drafts hin ⟨"a/x.rs", "1"⟩ (by rw [hwritten]; simp)
    have hthird : lastTo? "a/x.rs" (writeEach "out" noted drafts).2 =
        some ⟨"a/./x.rs", "3"⟩ := by
      rw [hwritten]
      decide +kernel
    obtain rfl := Option.some.inj (hlast.symm.trans hthird)
    rwa [show push "out" "a/x.rs" = "out/a/x.rs" by decide +kernel] at hread
  · obtain ⟨-, -, hfailed⟩ := hstep ⟨"note/y.rs", "2"⟩ (hin _ (by simp [drafts]))
    exact (hfailed _ hfails).1

end SchemaProjection.GeneratedFile
