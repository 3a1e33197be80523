import SchemaProjection.FileTree
import SchemaProjection.Proofs.FilePath
import SchemaProjection.Proofs.Outcome

namespace SchemaProjection.FileTree

open FilePath

variable {t u v : FileTree} {dir outer way rest names reached : List String}
  {step name path contents : String}

def Leads (t : FileTree) (dir : List String) (step : String) : Prop :=
  step ≠ ".." → isTooLong step = false ∧ t.get? (dir ++ [step]) = some .directory

theorem walk_cons_eq_ok_iff :
    t.walk dir (step :: way) = .ok reached ↔
      t.Leads dir step ∧ t.walk (stepFrom dir step) way = .ok reached := by
  rw [walk, stepFrom]
  by_cases hb : step = ".."
  · simp [hb, Leads]
  · cases hl : isTooLong step with
    | true => simp [hb, hl, Leads]
    | false =>
      cases hg : t.get? (dir ++ [step]) with
      | none => simp [hb, hl, hg, Leads]
      | some e => cases e <;> simp [hb, hl, hg, Leads]

theorem walk_append (t : FileTree) (dir way rest : List String) :
    t.walk dir (way ++ rest) = t.walk dir way >>= fun middle => t.walk middle rest := by
  induction way generalizing dir with
  | nil => rfl
  | cons step way ih =>
    rw [List.cons_append, walk, walk]
    split
    · exact ih dir.dropLast
    · split
      · rfl
      · split
        · exact ih (dir ++ [step])
        · rfl
        · rfl

theorem eq_resolve_of_walk (h : t.walk dir way = .ok reached) : reached = resolve dir way := by
  induction way generalizing dir with
  | nil => exact (Except.ok.inj h).symm
  | cons step way ih => exact ih (walk_cons_eq_ok_iff.mp h).2

theorem walk_eq_ok_iff :
    t.walk [] way = .ok reached ↔ t.isDirectory way = true ∧ reached = resolve [] way := by
  rw [isDirectory]
  constructor
  · intro h
    exact ⟨by rw [h]; rfl, eq_resolve_of_walk h⟩
  · rintro ⟨h, rfl⟩
    cases hw : t.walk [] way with
    | error e => rw [hw] at h; cases h
    | ok reached => rw [eq_resolve_of_walk hw]

theorem isDirectory_concat_iff :
    t.isDirectory (outer ++ [name]) = true ↔
      t.isDirectory outer = true ∧ t.Leads (resolve [] outer) name := by
  constructor
  · intro h
    have hw := walk_eq_ok_iff.mpr ⟨h, rfl⟩
    rw [walk_append] at hw
    obtain ⟨middle, hm, hs⟩ := Outcome.bind_eq_ok_iff.mp hw
    obtain ⟨ho, rfl⟩ := walk_eq_ok_iff.mp hm
    exact ⟨ho, (walk_cons_eq_ok_iff.mp hs).1⟩
  · rintro ⟨ho, hl⟩
    have hw : t.walk [] (outer ++ [name]) = .ok (stepFrom (resolve [] outer) name) := by
      rw [walk_append, walk_eq_ok_iff.mpr ⟨ho, rfl⟩]
      exact walk_cons_eq_ok_iff.mpr ⟨hl, rfl⟩
    exact (walk_eq_ok_iff.mp hw).1

/-- A tree that keeps every directory of another. Whatever could be walked there can be walked. -/
def KeepsDirectories (t u : FileTree) : Prop :=
  ∀ names, t.get? names = some .directory → u.get? names = some .directory

theorem KeepsDirectories.isDirectory (h : KeepsDirectories t u) (hw : t.isDirectory way = true) :
    u.isDirectory way = true := by
  induction way using List.reverseRecOn with
  | nil => rfl
  | append_singleton outer name ih =>
    obtain ⟨ho, hl⟩ := isDirectory_concat_iff.mp hw
    refine isDirectory_concat_iff.mpr ⟨ih ho, fun hb => ?_⟩
    exact ⟨(hl hb).1, h _ (hl hb).2⟩

/-- Whether names are as they were, or were free and are now those of a directory on the way. -/
def GrowsAt (way : List String) (t u : FileTree) (names : List String) : Prop :=
  u.get? names = t.get? names ∨
    t.get? names = none ∧ u.get? names = some .directory ∧
      ∃ outer, outer <+: way ∧ resolve [] outer = names

def GrowsAlong (way : List String) (t u : FileTree) : Prop :=
  ∀ names, GrowsAt way t u names

theorem GrowsAt.get?_eq_some {e : FileEntry} (h : GrowsAt way t u names)
    (he : t.get? names = some e) : u.get? names = some e := by
  obtain hs | ⟨hn, -, -⟩ := h
  · rw [hs, he]
  · rw [hn] at he
    cases he

theorem GrowsAlong.refl (way : List String) (t : FileTree) : GrowsAlong way t t :=
  fun _ => .inl rfl

theorem GrowsAlong.mono (h : GrowsAlong outer t u) (hp : outer <+: way) : GrowsAlong way t u := by
  intro names
  obtain he | ⟨hn, hd, inner, hi, hr⟩ := h names
  · exact .inl he
  · exact .inr ⟨hn, hd, inner, hi.trans hp, hr⟩

theorem GrowsAlong.trans (h : GrowsAlong way t u) (h' : GrowsAlong way u v) :
    GrowsAlong way t v := by
  intro names
  obtain he | ⟨hn, hd, hway⟩ := h' names
  · obtain hu | ⟨hn, hd, hway⟩ := h names
    · exact .inl (he.trans hu)
    · exact .inr ⟨hn, he.trans hd, hway⟩
  · obtain hu | ⟨-, hu, -⟩ := h names
    · exact .inr ⟨hu.symm.trans hn, hd, hway⟩
    · rw [hu] at hn
      cases hn

theorem GrowsAlong.keepsDirectories (h : GrowsAlong way t u) : KeepsDirectories t u :=
  fun names => (h names).get?_eq_some

theorem GrowsAlong.get?_eq_file_iff (h : GrowsAlong way t u) :
    u.get? names = some (.file contents) ↔ t.get? names = some (.file contents) := by
  obtain he | ⟨hn, hd, -⟩ := h names
  · rw [he]
  · simp [hn, hd]

theorem makeDirectory_eq_ok_iff :
    t.makeDirectory outer name = .ok u ↔
      t.isDirectory outer = true ∧ name ≠ ".." ∧ isTooLong name = false ∧
        t.get? (resolve [] outer ++ [name]) = none ∧
        u = t.set (resolve [] outer ++ [name]) .directory := by
  rw [makeDirectory, Outcome.bind_eq_ok_iff]
  simp only [walk_eq_ok_iff, Outcome.throw_if_eq_ok_iff, Outcome.pure_eq_ok_iff, and_assoc,
    exists_and_left, exists_eq_left, beq_iff_eq, Bool.not_eq_true, Option.isSome_eq_false_iff,
    Option.isNone_iff_eq_none, eq_comm (a := u)]

theorem ensureDirectory_eq_ok (h : t.ensureDirectory outer name = .ok u) :
    GrowsAlong (outer ++ [name]) t u ∧ u.isDirectory (outer ++ [name]) = true := by
  rw [ensureDirectory] at h
  split at h
  next made hm =>
    cases h
    obtain ⟨ho, hb, hl, hn, rfl⟩ := makeDirectory_eq_ok_iff.mp hm
    have hget := get?_set t (List.append_ne_nil_of_right_ne_nil (resolve [] outer)
      (List.cons_ne_nil name [])) .directory
    have hgrows : GrowsAlong (outer ++ [name]) t
        (t.set (resolve [] outer ++ [name]) .directory) := by
      intro names
      rw [GrowsAt, hget]
      by_cases hne : names = resolve [] outer ++ [name]
      · subst hne
        exact .inr ⟨hn, if_pos rfl, outer ++ [name], List.prefix_rfl, resolve_concat_of_ne hb⟩
      · exact .inl (if_neg hne)
    refine ⟨hgrows, isDirectory_concat_iff.mpr ⟨hgrows.keepsDirectories.isDirectory ho, fun _ => ?_⟩⟩
    exact ⟨hl, by rw [hget, if_pos rfl]⟩
  next =>
    split at h
    next hd =>
      cases h
      exact ⟨.refl _ _, hd⟩
    next => cases h

/-- Whatever stops the making of directories, those that were made are on the way. -/
theorem ensureDirectories_grows (t : FileTree) (back : List String) :
    GrowsAlong back.reverse t (t.ensureDirectories back).1 ∧
      ((t.ensureDirectories back).2 = .ok () →
        (t.ensureDirectories back).1.isDirectory back.reverse = true) := by
  induction back generalizing t with
  | nil => exact ⟨.refl _ _, fun _ => rfl⟩
  | cons name outer ih =>
    -- what was made for the outer directories stays, also when the last one cannot be made
    have hp : outer.reverse <+: outer.reverse ++ [name] := List.prefix_append _ _
    rw [ensureDirectories, List.reverse_cons]
    split
    next u hu => exact ⟨(ensureDirectory_eq_ok hu).1, fun _ => (ensureDirectory_eq_ok hu).2⟩
    next =>
      have hout := ih t
      split
      next u e hu =>
        rw [hu] at hout
        exact ⟨hout.1.mono hp, nofun⟩
      next u hu =>
        rw [hu] at hout
        split
        next v hv =>
          obtain ⟨hg, hd⟩ := ensureDirectory_eq_ok hv
          exact ⟨(hout.1.mono hp).trans hg, fun _ => hd⟩
        next => exact ⟨hout.1.mono hp, nofun⟩
    next => exact ⟨.refl _ _, nofun⟩

/-- Whether nothing keeps a directory from being at the end of each step: no file, and no name that
is too long. -/
def Unblocked (t : FileTree) (way : List String) : Prop :=
  ∀ outer name, outer ++ [name] <+: way → name ≠ ".." →
    isTooLong name = false ∧ ∀ contents, t.get? (resolve [] outer ++ [name]) ≠ some (.file contents)

theorem unblocked_nil (t : FileTree) : t.Unblocked [] := by
  intro outer name hp
  exact absurd (List.prefix_nil.mp hp) (by simp)

theorem unblocked_concat_iff :
    t.Unblocked (outer ++ [name]) ↔ t.Unblocked outer ∧ (name ≠ ".." → isTooLong name = false ∧
      ∀ contents, t.get? (resolve [] outer ++ [name]) ≠ some (.file contents)) := by
  simp only [Unblocked, List.prefix_concat_iff]
  constructor
  · intro h
    exact ⟨fun inner step hp => h inner step (.inr hp), h outer name (.inl rfl)⟩
  · rintro ⟨ho, hn⟩ inner step (he | hp)
    · obtain ⟨rfl, rfl⟩ := List.append_singleton_inj.mp he
      exact hn
    · exact ho inner step hp

theorem none_or_directory (h : ∀ contents, t.get? names ≠ some (.file contents)) :
    t.get? names = none ∨ t.get? names = some .directory := by
  cases hg : t.get? names with
  | none => exact .inl rfl
  | some e =>
    cases e with
    | directory => exact .inr rfl
    | file contents => exact absurd hg (h contents)

/-- Without obstacles, a way can only fail to be there. -/
theorem walk_of_unblocked (h : t.Unblocked way) (hd : t.isDirectory way = false) :
    t.walk [] way = .error .notFound := by
  induction way using List.reverseRecOn with
  | nil => cases hd
  | append_singleton outer name ih =>
    obtain ⟨ho, hn⟩ := unblocked_concat_iff.mp h
    rw [walk_append]
    cases hod : t.isDirectory outer with
    | false => rw [ih ho hod, Outcome.error_bind]
    | true =>
      rw [walk_eq_ok_iff.mpr ⟨hod, rfl⟩, Outcome.ok_bind]
      have hno : ¬ t.Leads (resolve [] outer) name := fun hl =>
        Bool.false_ne_true (hd.symm.trans (isDirectory_concat_iff.mpr ⟨hod, hl⟩))
      have hb : name ≠ ".." := fun he => hno fun hne => absurd he hne
      obtain ⟨hl, hfile⟩ := hn hb
      obtain hg | hg := none_or_directory hfile
      · simp [walk, hb, hl, hg]
      · exact absurd (fun _ => ⟨hl, hg⟩) hno

theorem ensureDirectory_of_isDirectory (h : t.Unblocked (outer ++ [name]))
    (ho : t.isDirectory outer = true) : ∃ u, t.ensureDirectory outer name = .ok u := by
  obtain ⟨-, hn⟩ := unblocked_concat_iff.mp h
  rw [ensureDirectory]
  cases hm : t.makeDirectory outer name with
  | ok u => exact ⟨u, rfl⟩
  | error e =>
    refine ⟨t, if_pos (isDirectory_concat_iff.mpr ⟨ho, fun hb => ?_⟩)⟩
    obtain ⟨hl, hfile⟩ := hn hb
    obtain hg | hg := none_or_directory hfile
    · have hmade := makeDirectory_eq_ok_iff.mpr ⟨ho, hb, hl, hg, rfl⟩
      rw [hm] at hmade
      cases hmade
    · exact ⟨hl, hg⟩

theorem ensureDirectory_of_not_isDirectory (h : t.Unblocked outer)
    (ho : t.isDirectory outer = false) : t.ensureDirectory outer name = .error .notFound := by
  have hd : t.isDirectory (outer ++ [name]) = false :=
    Bool.eq_false_iff.mpr fun hd => by simp [isDirectory_concat_iff, ho] at hd
  rw [ensureDirectory, makeDirectory, walk_of_unblocked h ho, Outcome.error_bind]
  exact if_neg (by simp [hd])

theorem GrowsAlong.unblocked_iff {along : List String} (h : GrowsAlong along t u) :
    u.Unblocked way ↔ t.Unblocked way := by
  simp only [Unblocked, ne_eq, h.get?_eq_file_iff]

theorem unblocked_of_isDirectory (h : t.isDirectory way = true) : t.Unblocked way := by
  induction way using List.reverseRecOn with
  | nil => exact unblocked_nil t
  | append_singleton outer name ih =>
    obtain ⟨ho, hl⟩ := isDirectory_concat_iff.mp h
    refine unblocked_concat_iff.mpr ⟨ih ho, fun hb => ⟨(hl hb).1, fun contents hg => ?_⟩⟩
    rw [(hl hb).2] at hg
    cases hg

theorem ensureDirectories_eq_ok_iff (t : FileTree) (back : List String) :
    (t.ensureDirectories back).2 = .ok () ↔ t.Unblocked back.reverse := by
  constructor
  · intro h
    obtain ⟨hg, hd⟩ := ensureDirectories_grows t back
    exact hg.unblocked_iff.mp (unblocked_of_isDirectory (hd h))
  · intro h
    induction back generalizing t with
    | nil => rfl
    | cons name outer ih =>
      rw [List.reverse_cons] at h
      obtain ⟨hout, -⟩ := unblocked_concat_iff.mp h
      rw [ensureDirectories]
      cases ho : t.isDirectory outer.reverse with
      | true =>
        obtain ⟨u, hu⟩ := ensureDirectory_of_isDirectory h ho
        rw [hu]
      | false =>
        rw [ensureDirectory_of_not_isDirectory hout ho]
        have hok := ih t hout
        obtain ⟨hg, hd⟩ := ensureDirectories_grows t outer
        obtain ⟨u, hu⟩ := ensureDirectory_of_isDirectory (hg.unblocked_iff.mpr h) (hd hok)
        cases hmade : t.ensureDirectories outer with
        | mk made made? =>
          rw [hmade] at hok hu
          cases hok
          simp only [hu]

def contentsOf : Option FileEntry → Except FileError String
  | none => .error .notFound
  | some .directory => .error .isDirectory
  | some (.file contents) => .ok contents

def read (t : FileTree) (path : String) : Except FileError String := do
  checkPath path
  match (steps path).getLast? with
  | none => throw .isDirectory
  | some name =>
    let dir ← t.walk [] (steps path).dropLast
    if name == ".." then throw .isDirectory
    if isTooLong name then throw .nameTooLong
    let contents ← contentsOf (t.get? (dir ++ [name]))
    if path.endsWith "/" || (parts path).getLast? == some "." then throw .notDirectory
    return contents

/-- Whether a path is written as that of a file: it ends in a name that a file can have. -/
structure IsFilePath (path : String) : Prop where
  checked : checkPath path = .ok ()
  named : ∃ name, (steps path).getLast? = some name ∧ name ≠ ".." ∧ isTooLong name = false
  bare : path.endsWith "/" = false ∧ (parts path).getLast? ≠ some "."

theorem contentsOf_eq_ok_iff {e : Option FileEntry} :
    contentsOf e = .ok contents ↔ e = some (.file contents) := by
  cases e with
  | none => simp [contentsOf]
  | some e => cases e <;> simp [contentsOf]

theorem isFilePath_iff (h : (steps path).getLast? = some name) :
    IsFilePath path ↔ checkPath path = .ok () ∧ name ≠ ".." ∧ isTooLong name = false ∧
      path.endsWith "/" = false ∧ (parts path).getLast? ≠ some "." := by
  constructor
  · rintro ⟨hc, ⟨_, hn, hb, hl⟩, hbare⟩
    obtain rfl := Option.some.inj (h.symm.trans hn)
    exact ⟨hc, hb, hl, hbare⟩
  · rintro ⟨hc, hb, hl, hbare⟩
    exact ⟨hc, ⟨name, h, hb, hl⟩, hbare⟩

theorem not_isFilePath_of_getLast?_eq_none (h : (steps path).getLast? = none) :
    ¬ IsFilePath path := by
  rintro ⟨-, ⟨_, hn, -⟩, -⟩
  rw [h] at hn
  cases hn

theorem destination_of_getLast? (h : (steps path).getLast? = some name) (hb : name ≠ "..") :
    destination path = resolve [] (steps path).dropLast ++ [name] := by
  rw [destination, ← resolve_concat_of_ne hb, List.dropLast_append_getLast? name h]

theorem IsFilePath.destination_ne_nil (h : IsFilePath path) : destination path ≠ [] := by
  obtain ⟨name, hn, hb, -⟩ := h.named
  rw [destination_of_getLast? hn hb]
  exact List.append_ne_nil_of_right_ne_nil _ (List.cons_ne_nil name [])

theorem putFile_eq_ok_iff :
    t.putFile path contents = .ok u ↔
      IsFilePath path ∧ t.isDirectory (steps path).dropLast = true ∧
        t.get? (destination path) ≠ some .directory ∧
        u = t.set (destination path) (.file contents) := by
  rw [putFile, Outcome.check_bind_eq_ok_iff]
  cases hs : (steps path).getLast? with
  | none =>
    refine iff_of_false ?_ fun h => not_isFilePath_of_getLast?_eq_none hs h.1
    rintro ⟨-, h⟩
    cases h
  | some name =>
    rw [isFilePath_iff hs]
    simp only [Outcome.bind_eq_ok_iff, walk_eq_ok_iff]
    by_cases hdot : (parts path).getLast? = some "."
    · refine iff_of_false ?_ fun h => h.1.2.2.2.2 hdot
      rintro ⟨-, dir, -, h⟩
      rw [if_pos (by simpa using hdot)] at h
      obtain ⟨_, -, h⟩ := Outcome.bind_eq_ok_iff.mp h
      cases h
    · simp only [hdot, beq_iff_eq, if_false, Outcome.throw_if_eq_ok_iff, Outcome.pure_eq_ok_iff,
        Bool.or_eq_true, not_or, Bool.not_eq_true, eq_comm (a := u)]
      constructor
      · rintro ⟨hc, _, ⟨hd, rfl⟩, ⟨he, hb⟩, hl, hg, rfl⟩
        rw [destination_of_getLast? hs hb]
        exact ⟨⟨hc, hb, hl, he, hdot⟩, hd, hg, rfl⟩
      · rintro ⟨⟨hc, hb, hl, he, -⟩, hd, hg, rfl⟩
        rw [destination_of_getLast? hs hb] at hg ⊢
        exact ⟨hc, _, ⟨hd, rfl⟩, ⟨he, hb⟩, hl, hg, rfl⟩

theorem read_eq_ok_iff :
    t.read path = .ok contents ↔
      IsFilePath path ∧ t.isDirectory (steps path).dropLast = true ∧
        t.get? (destination path) = some (.file contents) := by
  rw [read, Outcome.check_bind_eq_ok_iff]
  cases hs : (steps path).getLast? with
  | none =>
    refine iff_of_false ?_ fun h => not_isFilePath_of_getLast?_eq_none hs h.1
    rintro ⟨-, h⟩
    cases h
  | some name =>
    rw [isFilePath_iff hs]
    simp only [Outcome.bind_eq_ok_iff, walk_eq_ok_iff, Outcome.throw_if_eq_ok_iff,
      contentsOf_eq_ok_iff, beq_iff_eq, Outcome.pure_eq_ok_iff, Bool.or_eq_true, not_or,
      Bool.not_eq_true]
    constructor
    · rintro ⟨hc, _, ⟨hd, rfl⟩, hb, hl, _, hg, ⟨he, hdot⟩, rfl⟩
      rw [destination_of_getLast? hs hb]
      exact ⟨⟨hc, hb, hl, he, hdot⟩, hd, hg⟩
    · rintro ⟨⟨hc, hb, hl, he, hdot⟩, hd, hg⟩
      rw [destination_of_getLast? hs hb] at hg
      exact ⟨hc, _, ⟨hd, rfl⟩, hb, hl, _, hg, ⟨he, hdot⟩, rfl⟩

/-- What a write that succeeds makes of a tree. -/
structure Wrote (path contents : String) (t u : FileTree) : Prop where
  isFilePath : IsFilePath path
  isDirectory : u.isDirectory (steps path).dropLast = true
  notDirectory : t.get? (destination path) ≠ some .directory
  get?_destination : u.get? (destination path) = some (.file contents)
  growsAt : ∀ names, names ≠ destination path → GrowsAt (steps path).dropLast t u names

theorem Wrote.keepsDirectories (h : Wrote path contents t u) : KeepsDirectories t u := by
  intro names hd
  have hne : names ≠ destination path := fun he => h.notDirectory (he ▸ hd)
  exact (h.growsAt names hne).get?_eq_some hd

theorem Wrote.read (h : Wrote path contents t u) : u.read path = .ok contents :=
  read_eq_ok_iff.mpr ⟨h.isFilePath, h.isDirectory, h.get?_destination⟩

theorem read_of_growsAt (h : KeepsDirectories t u) (hg : GrowsAt way t u (destination path))
    (hr : t.read path = .ok contents) : u.read path = .ok contents := by
  obtain ⟨hp, hd, hc⟩ := read_eq_ok_iff.mp hr
  exact read_eq_ok_iff.mpr ⟨hp, h.isDirectory hd, hg.get?_eq_some hc⟩

theorem GrowsAlong.read (h : GrowsAlong way t u) (hr : t.read path = .ok contents) :
    u.read path = .ok contents :=
  read_of_growsAt h.keepsDirectories (h _) hr

theorem Wrote.read_of_ne {other kept : String} (h : Wrote path contents t u)
    (hne : destination other ≠ destination path) (hr : t.read other = .ok kept) :
    u.read other = .ok kept :=
  read_of_growsAt h.keepsDirectories (h.growsAt _ hne) hr

/-- What is written at one path is read at every other that leads to the same file. -/
theorem Wrote.read_of_eq {other before : String} (h : Wrote path contents t u)
    (he : destination other = destination path) (hr : t.read other = .ok before) :
    u.read other = .ok contents := by
  obtain ⟨hp, hd, -⟩ := read_eq_ok_iff.mp hr
  exact read_eq_ok_iff.mpr ⟨hp, h.keepsDirectories.isDirectory hd, he ▸ h.get?_destination⟩

theorem wrote_of_putFile {made : FileTree} (hm : GrowsAlong (steps path).dropLast t made)
    (h : made.putFile path contents = .ok u) : Wrote path contents t u := by
  obtain ⟨hp, hd, hne, rfl⟩ := putFile_eq_ok_iff.mp h
  have hget := get?_set made hp.destination_ne_nil (.file contents)
  have hkept : KeepsDirectories made (made.set (destination path) (.file contents)) := by
    intro names hn
    have hdest : names ≠ destination path := by
      rintro rfl
      exact hne hn
    rw [hget, if_neg hdest, hn]
  refine ⟨hp, hkept.isDirectory hd, ?_, by rw [hget, if_pos rfl], ?_⟩
  · exact fun ht => hne (hm.keepsDirectories _ ht)
  · intro names hn
    rw [GrowsAt, hget, if_neg hn]
    exact hm names

/-- A write that fails has made directories at most. -/
theorem write_spec (t : FileTree) (path contents : String) :
    ((t.write path contents).2 = .ok () → Wrote path contents t (t.write path contents).1) ∧
      ∀ e, (t.write path contents).2 = .error e →
        GrowsAlong (steps path).dropLast t (t.write path contents).1 := by
  have hmade := ensureDirectories_grows t (steps path).dropLast.reverse
  rw [List.reverse_reverse] at hmade
  rw [write]
  split
  next => exact ⟨nofun, fun _ _ => .refl _ _⟩
  next =>
    split
    next made e hm =>
      rw [hm] at hmade
      exact ⟨nofun, fun _ _ => hmade.1⟩
    next made hm =>
      rw [hm] at hmade
      split
      next u hput => exact ⟨fun _ => wrote_of_putFile hmade.1 hput, nofun⟩
      next => exact ⟨nofun, fun _ _ => hmade.1⟩

/-- Whether a write at a path has nothing against it. -/
structure IsWritable (t : FileTree) (path : String) : Prop where
  parentChecked : checkPath (parent path) = .ok ()
  isFilePath : IsFilePath path
  unblocked : t.Unblocked (steps path).dropLast
  notDirectory : t.get? (destination path) ≠ some .directory

/-- Without steps back, the directories on the way to a file do not take its name. -/
theorem get?_destination_of_growsAlong (hback : ".." ∉ steps path) (hp : IsFilePath path)
    (h : GrowsAlong (steps path).dropLast t u) :
    u.get? (destination path) = t.get? (destination path) := by
  refine (h _).resolve_right ?_
  rintro ⟨-, -, outer, ⟨rest, hrest⟩, ho⟩
  have hne : steps path ≠ [] := by
    obtain ⟨name, hn, -⟩ := hp.named
    exact List.ne_nil_of_mem (List.mem_of_getLast? hn)
  have hinner : ".." ∉ outer := fun hm =>
    hback ((List.dropLast_subset _) (hrest ▸ List.mem_append_left rest hm))
  rw [destination, resolve_of_notMem hback, resolve_of_notMem hinner] at ho
  have hlen := congrArg List.length hrest
  have hpos := List.length_pos_iff.mpr hne
  simp only [List.nil_append] at ho
  rw [ho, List.length_append, List.length_dropLast] at hlen
  omega

theorem write_eq_ok_iff (hback : ".." ∉ steps path) :
    (t.write path contents).2 = .ok () ↔ t.IsWritable path := by
  have hdirs := ensureDirectories_eq_ok_iff t (steps path).dropLast.reverse
  have hmade := ensureDirectories_grows t (steps path).dropLast.reverse
  rw [List.reverse_reverse] at hdirs hmade
  constructor
  · intro h
    have hw := (write_spec t path contents).1 h
    rw [write] at h
    split at h
    next => cases h
    next hc =>
      refine ⟨hc, hw.isFilePath, hdirs.mp ?_, hw.notDirectory⟩
      split at h
      next => cases h
      next hm => rw [hm]
  · rintro ⟨hc, hp, hu, hne⟩
    have hok := hdirs.mpr hu
    cases hm : t.ensureDirectories (steps path).dropLast.reverse with
    | mk made outcome =>
      rw [hm] at hok hmade
      cases hok
      have hsame := get?_destination_of_growsAlong hback hp hmade.1
      have hput : made.putFile path contents = .ok (made.set (destination path) (.file contents)) :=
        putFile_eq_ok_iff.mpr ⟨hp, hmade.2 rfl, hsame ▸ hne, rfl⟩
      simp only [write, hc, hm, hput]

end SchemaProjection.FileTree
