import SchemaProjection.Toml.Value

namespace SchemaProjection.Toml

/-- What makes a table: its own header, the header of a table inside it, or a dotted key of an
entry inside it. -/
inductive Origin where
  | header
  | implied
  | dotted
  deriving DecidableEq

/-- What a key stands for. A repeated table grows at its last element only. -/
inductive Node where
  | value (v : Toml)
  | table (origin : Origin) (entries : List (String × Node))
  | tables (earlier : List (List (String × Node))) (last : List (String × Node))

abbrev Entries := List (String × Node)

structure KeyPath where
  parents : List String
  name : String

mutual

def Node.toToml : Node → Toml
  | .value v => v
  | .table _ es => .table (entriesToToml es)
  | .tables earlier last => .array (tablesToToml earlier ++ [.table (entriesToToml last)])

def entriesToToml : List (String × Node) → List (String × Toml)
  | [] => []
  | (k, n) :: es => (k, n.toToml) :: entriesToToml es

def tablesToToml : List (List (String × Node)) → List Toml
  | [] => []
  | es :: ts => .table (entriesToToml es) :: tablesToToml ts

end

namespace Entries

def alter? (k : String) (f : Option Node → Option Node) : Entries → Option Entries
  | [] => (f none).map fun n => [(k, n)]
  | (k', n) :: es =>
    if k == k' then (f (some n)).map fun n => (k, n) :: es
    else (alter? k f es).map ((k', n) :: ·)

def inTable (f : Entries → Option Entries) : Option Node → Option Node
  | none => (f []).map (.table .implied)
  | some (.table origin es) => (f es).map (.table origin)
  | some (.tables earlier last) => (f last).map (.tables earlier)
  | some (.value _) => none

def within? (f : Entries → Option Entries) : List String → Entries → Option Entries
  | [], es => f es
  | k :: ks, es => alter? k (inTable (within? f ks)) es

/-- A header begins a new table or completes an implied one. -/
def define : Option Node → Option Node
  | none => some (.table .header [])
  | some (.table .implied es) => some (.table .header es)
  | _ => none

def defineNext : Option Node → Option Node
  | none => some (.tables [] [])
  | some (.tables earlier last) => some (.tables (earlier ++ [last]) [])
  | _ => none

def addTable? (repeated : Bool) (key : KeyPath) (es : Entries) : Option Entries :=
  within? (alter? key.name (if repeated then defineNext else define)) key.parents es

/-- Changes the entries of a table on the way of a dotted key. A table with a header is closed to
dotted keys; one that other headers imply may be passed through only. -/
def onDottedWay (isLast : Bool) (f : Entries → Option Entries) : Option Node → Option Node
  | none => (f []).map (.table .dotted)
  | some (.table .dotted es) => (f es).map (.table .dotted)
  | some (.table .implied es) => if isLast then none else (f es).map (.table .implied)
  | some (.tables earlier last) => if isLast then none else (f last).map (.tables earlier)
  | _ => none

def setNew (v : Toml) : Option Node → Option Node
  | none => some (.value v)
  | some _ => none

def addBelow? (name : String) (v : Toml) : List String → Entries → Option Entries
  | [], es => alter? name (setNew v) es
  | k :: ks, es => alter? k (onDottedWay ks.isEmpty (addBelow? name v ks)) es

def add? (key : KeyPath) (v : Toml) (es : Entries) : Option Entries :=
  addBelow? key.name v key.parents es

end Entries

end SchemaProjection.Toml
