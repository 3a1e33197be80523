import SchemaProjection.FilePath
import SchemaProjection.Proofs.Text.Parts

namespace SchemaProjection.FilePath

variable {base path part : String}

theorem isAbsolute_iff : isAbsolute path = true ↔ path.toList.head? = some '/' := by
  rw [isAbsolute, String.startsWith_string_iff]
  change ['/'] <+: path.toList ↔ _
  cases path.toList <;> simp [List.cons_prefix_cons, eq_comm]

theorem endsWith_slash_iff : path.endsWith "/" = true ↔ ∃ s, path = s ++ .singleton '/' := by
  rw [← String.endsWith_toSlice, String.Slice.endsWith_string_iff, String.copy_toSlice]
  change ['/'] <:+ path.toList ↔ _
  constructor
  · rintro ⟨cs, h⟩
    exact ⟨.ofList cs, String.toList_injective (by simpa using h.symm)⟩
  · rintro ⟨s, rfl⟩
    exact ⟨s.toList, by simp⟩

theorem empty_push (path : String) : push "" path = path := by
  simp [push]

theorem push_of_isAbsolute (h : isAbsolute path = true) : push base path = path := by
  simp [push, h]

theorem push_of_relative (h : isAbsolute path = false) (hb : base ≠ "") :
    ∃ s, s ++ .singleton '/' ++ path = push base path ∧
      (base = s ∨ base = s ++ .singleton '/') := by
  have he : base.isEmpty = false := by simpa using hb
  simp only [push, h, he, Bool.false_or, Bool.false_eq_true, if_false]
  split
  next hs =>
    obtain ⟨s, rfl⟩ := endsWith_slash_iff.mp hs
    exact ⟨s, rfl, .inr rfl⟩
  next => exact ⟨base, rfl, .inl rfl⟩

theorem isAbsolute_push (base path : String) :
    isAbsolute (push base path) = (isAbsolute path || isAbsolute base) := by
  cases h : isAbsolute path with
  | true => rw [push_of_isAbsolute h, h, Bool.true_or]
  | false =>
    rw [Bool.false_or]
    by_cases hb : base = ""
    · subst hb
      rw [empty_push, h]
      rfl
    · obtain ⟨s, hp, hs⟩ := push_of_relative h hb
      rw [← hp, Bool.eq_iff_iff, isAbsolute_iff, isAbsolute_iff]
      obtain rfl | rfl := hs
      · have hne : base.toList ≠ [] := fun hn => hb (String.toList_eq_nil_iff.mp hn)
        simp [String.toList_append, List.head?_append, List.head?_eq_some_head hne]
      · simp [String.toList_append, List.head?_append]

theorem parts_append_slash (a b : String) :
    parts (a ++ .singleton '/' ++ b) = parts a ++ parts b :=
  Text.parts_append_singleton a b rfl

theorem parts_push (h : isAbsolute path = false) :
    parts (push base path) = parts base ++ parts path := by
  by_cases hb : base = ""
  · subst hb
    rw [empty_push]
    rfl
  · obtain ⟨s, hp, hs⟩ := push_of_relative h hb
    rw [← hp, parts_append_slash]
    obtain rfl | rfl := hs
    · rfl
    · have he := parts_append_slash s ""
      rw [String.append_empty, show parts "" = [] from rfl, List.append_nil] at he
      rw [he]

theorem steps_push (h : isAbsolute path = false) :
    steps (push base path) = steps base ++ steps path := by
  rw [steps, parts_push h, List.filter_append]
  rfl

theorem mem_parts_push (h : part ∈ parts (push base path)) :
    part ∈ parts base ∨ part ∈ parts path := by
  cases ha : isAbsolute path with
  | true => exact .inr (push_of_isAbsolute ha ▸ h)
  | false => rwa [parts_push ha, List.mem_append] at h

theorem isAbsolute_foldl_push (ps : List String) :
    isAbsolute (ps.foldl push base) = (isAbsolute base || ps.any isAbsolute) := by
  induction ps generalizing base with
  | nil => simp
  | cons p ps ih =>
    rw [List.foldl_cons, ih, isAbsolute_push, List.any_cons, Bool.or_comm (isAbsolute p),
      Bool.or_assoc]

theorem isAbsolute_ofParts (ps : List String) : isAbsolute (ofParts ps) = ps.any isAbsolute := by
  rw [ofParts, isAbsolute_foldl_push]
  rfl

theorem mem_parts_foldl_push {ps : List String} (h : part ∈ parts (ps.foldl push base)) :
    part ∈ parts base ∨ ∃ p ∈ ps, part ∈ parts p := by
  induction ps generalizing base with
  | nil => exact .inl h
  | cons p ps ih =>
    obtain hb | ⟨q, hq, hp⟩ := ih h
    · obtain hb | hb := mem_parts_push hb
      · exact .inl hb
      · exact .inr ⟨p, List.mem_cons_self, hb⟩
    · exact .inr ⟨q, List.mem_cons_of_mem p hq, hp⟩

theorem mem_parts_ofParts {ps : List String} (h : part ∈ parts (ofParts ps)) :
    ∃ p ∈ ps, part ∈ parts p :=
  (mem_parts_foldl_push h).resolve_left List.not_mem_nil

/-- Whether a path leads from a directory to something below it: it begins as the directory does,
and goes on by at least one step, none of them back. -/
def IsBelow (dir path : String) : Prop :=
  isAbsolute path = isAbsolute dir ∧
    ∃ rest, steps path = steps dir ++ rest ∧ rest ≠ [] ∧ ".." ∉ rest

/-- A path stays below every directory that it is put below only if it is not absolute. -/
theorem forall_isBelow_push_iff (hne : steps path ≠ []) (hback : ".." ∉ parts path) :
    (∀ dir, IsBelow dir (push dir path)) ↔ isAbsolute path = false := by
  constructor
  · intro h
    have ha := (h "").1
    rw [isAbsolute_push, show isAbsolute "" = false from rfl, Bool.or_false] at ha
    exact ha
  · intro h dir
    refine ⟨by rw [isAbsolute_push, h, Bool.false_or], steps path, steps_push h, hne, ?_⟩
    exact fun hm => hback (List.mem_filter.mp hm).1

def stepFrom (dir : List String) (step : String) : List String :=
  if step == ".." then dir.dropLast else dir ++ [step]

def resolve (dir steps : List String) : List String :=
  steps.foldl stepFrom dir

def destination (path : String) : List String :=
  resolve [] (steps path)

theorem stepFrom_of_ne {dir : List String} {step : String} (h : step ≠ "..") :
    stepFrom dir step = dir ++ [step] := by
  simp [stepFrom, h]

theorem resolve_append (dir first rest : List String) :
    resolve dir (first ++ rest) = resolve (resolve dir first) rest :=
  List.foldl_append

theorem resolve_concat_of_ne {dir outer : List String} {name : String} (h : name ≠ "..") :
    resolve dir (outer ++ [name]) = resolve dir outer ++ [name] :=
  (resolve_append dir outer [name]).trans (stepFrom_of_ne h)

theorem resolve_of_notMem {dir rest : List String} (h : ".." ∉ rest) :
    resolve dir rest = dir ++ rest := by
  induction rest generalizing dir with
  | nil => exact (List.append_nil dir).symm
  | cons step rest ih =>
    rw [List.mem_cons, not_or] at h
    change resolve (stepFrom dir step) rest = _
    rw [stepFrom_of_ne (Ne.symm h.1), ih h.2, List.append_assoc, List.singleton_append]

theorem back_notMem_steps (h : ".." ∉ parts path) : ".." ∉ steps path :=
  fun hm => h (List.mem_filter.mp hm).1

/-- A relative path without steps back adds its own steps to the names of its base. -/
theorem destination_push (h : isAbsolute path = false) (hback : ".." ∉ parts path) :
    destination (push base path) = destination base ++ steps path := by
  rw [destination, steps_push h, resolve_append]
  exact resolve_of_notMem (back_notMem_steps hback)

end SchemaProjection.FilePath
