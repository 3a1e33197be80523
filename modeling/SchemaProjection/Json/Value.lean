namespace SchemaProjection

/-- Of numbers, only those that can stand for a position are told apart: `natural` is an integer
without sign, fraction and exponent that fits in 64 bits. -/
inductive Json where
  | null
  | bool (b : Bool)
  | natural (n : Nat)
  | number (text : String)
  | string (s : String)
  | array (items : List Json)
  | object (members : List (String × Json))
  deriving Inhabited

namespace Json

mutual

/-- Of the members with one name keeps only the last, at every level. -/
def lastWins : Json → Json
  | .array items => .array (lastWinsItems items)
  | .object members => .object (lastWinsMembers members)
  | v => v

def lastWinsItems : List Json → List Json
  | [] => []
  | v :: vs => v.lastWins :: lastWinsItems vs

def lastWinsMembers : List (String × Json) → List (String × Json)
  | [] => []
  | (name, v) :: ms =>
    if ms.any (·.1 == name) then lastWinsMembers ms
    else (name, v.lastWins) :: lastWinsMembers ms

end

/-- Member values in the order of the given names. An object may not repeat any of them and may
have others; an array gives the members by position and may be short, but not too long. -/
def slots? (names : List String) : Json → Option (List (Option Json))
  | .array items =>
    if items.length ≤ names.length then
      some (items.map some ++ List.replicate (names.length - items.length) none)
    else none
  | .object members =>
    names.mapM fun name =>
      match members.filter (·.1 == name) with
      | [] => some none
      | [(_, v)] => some (some v)
      | _ => none
  | _ => none

end Json

end SchemaProjection
