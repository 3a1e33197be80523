import SchemaProjection.Error
import SchemaProjection.FilePath

namespace SchemaProjection

inductive FileEntry where
  | directory
  | file (contents : String)
  deriving DecidableEq

/-- Directories and files by the names that lead to them. The root is a directory and has no entry
of its own. -/
structure FileTree where
  entries : List (List String × FileEntry) := []

namespace FileTree

def longestName : Nat := 255

def longestPath : Nat := 4095

def isTooLong (name : String) : Bool :=
  longestName < name.utf8ByteSize

def get? (t : FileTree) (names : List String) : Option FileEntry :=
  if names.isEmpty then some .directory else t.entries.lookup names

def set (t : FileTree) (names : List String) (e : FileEntry) : FileTree :=
  ⟨(names, e) :: t.entries.filter (·.1 != names)⟩

theorem lookup_filter_ne {names other : List String} (h : other ≠ names)
    (es : List (List String × FileEntry)) :
    (es.filter (·.1 != names)).lookup other = es.lookup other := by
  induction es with
  | nil => rfl
  | cons e es ih =>
    by_cases he : e.1 = names
    · have hne : (other == e.1) = false := by simpa [he] using h
      rw [List.filter_cons_of_neg (by simp [he]), ih, List.lookup_cons, hne]
    · rw [List.filter_cons_of_pos (by simp [he]), List.lookup_cons, List.lookup_cons, ih]

theorem get?_set (t : FileTree) {names : List String} (hn : names ≠ []) (e : FileEntry)
    (other : List String) :
    (t.set names e).get? other = if other = names then some e else t.get? other := by
  by_cases h : other = names
  · simp [h, get?, set, hn]
  · have hne : (other == names) = false := by simpa using h
    simp only [get?, set, List.lookup_cons, hne, lookup_filter_ne h, h, if_false]

def walk (t : FileTree) (dir : List String) : List String → Except FileError (List String)
  | [] => .ok dir
  | step :: steps =>
    if step == ".." then t.walk dir.dropLast steps
    else if isTooLong step then .error .nameTooLong
    else match t.get? (dir ++ [step]) with
      | some .directory => t.walk (dir ++ [step]) steps
      | some (.file _) => .error .notDirectory
      | none => .error .notFound

def isDirectory (t : FileTree) (steps : List String) : Bool :=
  (t.walk [] steps).isOk

def makeDirectory (t : FileTree) (outer : List String) (name : String) :
    Except FileError FileTree := do
  let dir ← t.walk [] outer
  if name == ".." then throw .exists
  if isTooLong name then throw .nameTooLong
  if (t.get? (dir ++ [name])).isSome then throw .exists
  return t.set (dir ++ [name]) .directory

def ensureDirectory (t : FileTree) (outer : List String) (name : String) :
    Except FileError FileTree :=
  match t.makeDirectory outer name with
  | .ok t => .ok t
  | .error e => if t.isDirectory (outer ++ [name]) then .ok t else .error e

/-- Makes a directory and those that it has to be in. The steps that lead to it are given from the
last one on. -/
def ensureDirectories (t : FileTree) : List String → FileTree × Except FileError Unit
  | [] => (t, .ok ())
  | name :: outer =>
    match t.ensureDirectory outer.reverse name with
    | .ok t => (t, .ok ())
    | .error .notFound =>
      match t.ensureDirectories outer with
      | (t, .error e) => (t, .error e)
      | (t, .ok ()) =>
        match t.ensureDirectory outer.reverse name with
        | .ok t => (t, .ok ())
        | .error e => (t, .error e)
    | .error e => (t, .error e)

def checkPath (path : String) : Except FileError Unit :=
  if path.contains '\x00' then .error .nulInName
  else if longestPath < path.utf8ByteSize then .error .nameTooLong
  else .ok ()

def putFile (t : FileTree) (path contents : String) : Except FileError FileTree := do
  checkPath path
  match (FilePath.steps path).getLast? with
  | none => throw .isDirectory
  | some name =>
    let dir ← t.walk [] (FilePath.steps path).dropLast
    if (FilePath.parts path).getLast? == some "." then
      let _ ← t.walk dir [name]
      throw .isDirectory
    if path.endsWith "/" || name == ".." then throw .isDirectory
    if isTooLong name then throw .nameTooLong
    if t.get? (dir ++ [name]) == some .directory then throw .isDirectory
    return t.set (dir ++ [name]) (.file contents)

/-- Writes a file and makes the directories that it has to be in. Both paths are refused as they are
written, with all their slashes and dots. -/
def write (t : FileTree) (path contents : String) : FileTree × Except FileError Unit :=
  match checkPath (FilePath.parent path) with
  | .error e => (t, .error e)
  | .ok () =>
    match t.ensureDirectories (FilePath.steps path).dropLast.reverse with
    | (t, .error e) => (t, .error e)
    | (t, .ok ()) =>
      match t.putFile path contents with
      | .ok t => (t, .ok ())
      | .error e => (t, .error e)

def listed? (dir : List String) : List String × FileEntry → Option (String × Option String)
  | (names, e) =>
    if dir.isPrefixOf names && dir.length < names.length then
      let path := "/".intercalate (names.drop dir.length)
      match e with
      | .directory => some (path ++ "/", none)
      | .file contents => some (path, some contents)
    else none

def listing (t : FileTree) (dir : List String) : List (String × Option String) :=
  (t.entries.filterMap (listed? dir)).mergeSort (·.1 ≤ ·.1)

end FileTree

end SchemaProjection
