namespace SchemaProjection

/-- Two raw names, in input order, that have been given the same output name. -/
structure Clash where
  name : String
  first : String
  second : String
  deriving DecidableEq, Repr

namespace Clash

/-- The first entry whose name has occurred before, with the raw name of the earlier entry.
Entries are pairs of an output name and a raw name. -/
def find? (seen : List (String × String)) : List (String × String) → Option Clash
  | [] => none
  | (name, raw) :: es =>
    match seen.lookup name with
    | some first => some ⟨name, first, raw⟩
    | none => find? ((name, raw) :: seen) es

end Clash

end SchemaProjection
