import SchemaProjection.Text.Parts

namespace SchemaProjection.FilePath

def isAbsolute (path : String) : Bool :=
  path.startsWith "/"

/-- Puts a path below another. An absolute path replaces what it is put below, and no slash is
added after one. -/
def push (base path : String) : String :=
  if isAbsolute path || base.isEmpty then path
  else if base.endsWith "/" then base ++ path
  else base ++ "/" ++ path

def ofParts (parts : List String) : String :=
  parts.foldl push ""

/-- Leaves out the slashes and the single dots at the end of a path, which is given from its last
character on. -/
def dropDots : List Char → List Char
  | '/' :: cs => dropDots cs
  | '.' :: '/' :: cs => dropDots cs
  | cs => cs

def parent (path : String) : String :=
  let outer := dropDots ((dropDots path.toList.reverse).dropWhile (· != '/'))
  if outer.isEmpty && isAbsolute path then "/" else .ofList outer.reverse

def parts (path : String) : List String :=
  Text.parts (· == '/') path

/-- The steps from one directory to the next. A single dot is no step, two dots are a step
back. -/
def steps (path : String) : List String :=
  (parts path).filter (· != ".")

end SchemaProjection.FilePath
