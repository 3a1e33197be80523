import SchemaProjection.Json.Value

/-!
JSON numbers. Their values are not kept, but a number whose value is beyond the double-precision
range is refused.
-/

namespace SchemaProjection.Json

inductive Fault where
  | unfinished
  | malformed
  deriving DecidableEq, Repr

def largestNatural : Nat := Nat.pow 2 64 - 1

def digitValue (c : Char) : Nat := c.toNat - '0'.toNat

/-- Reads digits on top of `n` while the result fits in 64 bits. Gives the result and the digits
that are left. -/
def significand (n : Nat) : List Char → Nat × List Char
  | [] => (n, [])
  | c :: cs =>
    let m := n * 10 + digitValue c
    if m ≤ largestNatural then significand m cs else (n, c :: cs)

/-- The nearest number with 53 significant bits, a tie going to the even one. -/
def roundToDouble (n : Nat) : Nat :=
  if n < Nat.pow 2 53 then n
  else
    let shift := n.log2 - 52
    let q := n >>> shift
    let r := n % Nat.pow 2 shift
    let half := Nat.pow 2 (shift - 1)
    (if r > half || (r == half && q % 2 == 1) then q + 1 else q) <<< shift

/-- Whether `n` times ten to the power `e`, both factors rounded first, exceeds every double. -/
def exceedsDouble (n : Nat) (e : Int) : Bool :=
  n != 0 && (e > 308 ||
    (0 ≤ e &&
      Nat.pow 2 1024 ≤ roundToDouble (roundToDouble n * roundToDouble (Nat.pow 10 e.toNat))))

def scanExponent : List Char → Except Fault (Option Int × List Char)
  | [] => .ok (none, [])
  | mark :: cs =>
    if mark != 'e' && mark != 'E' then .ok (none, mark :: cs)
    else
      let (negative, digits) := match cs with
        | '-' :: ds => (true, ds)
        | '+' :: ds => (false, ds)
        | ds => (false, ds)
      match digits.takeWhile Char.isDigit, digits.dropWhile Char.isDigit with
      | [], [] => .error .unfinished
      | [], _ => .error .malformed
      | ds, rest =>
        let n : Int := ds.foldl (fun n c => n * 10 + digitValue c) 0
        .ok (some (if negative then -n else n), rest)

/-- Reads the number that a text begins with, and gives what follows it. The number is unfinished
if more characters could make it one. -/
def scanNumber (text : List Char) : Except Fault (Json × List Char) := do
  let (negative, cs) := match text with
    | '-' :: cs => (true, cs)
    | cs => (false, cs)
  let whole := cs.takeWhile Char.isDigit
  let rest := cs.dropWhile Char.isDigit
  if whole.isEmpty then
    throw (if rest.isEmpty then .unfinished else .malformed)
  if whole.head? == some '0' && whole.length != 1 then
    throw .malformed
  let (fraction, rest) ← match rest with
    | '.' :: cs =>
      match cs.takeWhile Char.isDigit, cs.dropWhile Char.isDigit with
      | [], [] => throw .unfinished
      | [], _ => throw .malformed
      | ds, rest => pure (some ds, rest)
    | rest => pure (none, rest)
  let (e, rest) ← scanExponent rest
  let (n, extra) := significand 0 whole
  let (m, left) := significand n (fraction.getD [])
  let scale : Int := extra.length - ((fraction.getD []).length - left.length : Nat)
  if exceedsDouble m (scale + e.getD 0) then
    throw .malformed
  if !negative && fraction.isNone && e.isNone && extra.isEmpty then
    return (.natural n, rest)
  return (.number (.ofList (text.take (text.length - rest.length))), rest)

end SchemaProjection.Json
