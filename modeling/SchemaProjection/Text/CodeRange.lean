namespace SchemaProjection.Text

/-- The first and the last code point of a range, and the distance from each member to the
next. -/
abbrev CodeRange := Nat × Nat × Nat

namespace CodeRange

def holds (r : CodeRange) (c : Char) : Bool :=
  r.1 ≤ c.toNat && c.toNat ≤ r.2.1 && (c.toNat - r.1) % r.2.2 == 0

def anyHolds (rs : List CodeRange) (c : Char) : Bool :=
  rs.any (·.holds c)

end CodeRange

end SchemaProjection.Text
