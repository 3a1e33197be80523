import SchemaProjection.Json.Number
import SchemaProjection.Text.Hexadecimal

namespace SchemaProjection.Json

/-- A text that goes wrong inside a token ends with a broken one. -/
inductive Token where
  | openArray
  | closeArray
  | openObject
  | closeObject
  | comma
  | colon
  | text (s : String)
  | scalar (v : Json)
  | brokenText (f : Fault)
  | broken (f : Fault)

namespace Token

def isBlank (c : Char) : Bool :=
  c == ' ' || c == '\t' || c == '\n' || c == '\r'

/-- The value of the four hexadecimal digits that come next. The text ends too early if fewer
than four bytes are left of it. -/
def codeUnit (cs : List Char) : Except Fault Nat :=
  match cs.take 4, Text.hexValue? (cs.take 4) with
  | [_, _, _, _], some n => .ok n
  | _, _ => .error (if (String.ofList cs).utf8ByteSize < 4 then .unfinished else .malformed)

def shortEscape? : Char → Option Char
  | '"' => some '"'
  | '\\' => some '\\'
  | '/' => some '/'
  | 'b' => some '\x08'
  | 'f' => some '\x0c'
  | 'n' => some '\n'
  | 'r' => some '\r'
  | 't' => some '\t'
  | _ => none

def prepend (c : Char) (r : List Char × List Char) : List Char × List Char :=
  (c :: r.1, r.2)

/-- Reads up to the closing quote. `high` is a high surrogate just read, which only a low one may
follow. Gives the characters and what comes after the quote. -/
def scanText (high : Option Nat) (cs : List Char) : Except Fault (List Char × List Char) :=
  match high, cs with
  | _, [] => .error .unfinished
  | _, ['\\'] => .error .unfinished
  | some h, '\\' :: 'u' :: cs =>
    match codeUnit cs with
    | .error f => .error f
    | .ok low =>
      if 0xDC00 ≤ low && low < 0xE000 then
        (scanText none (cs.drop 4)).map
          (prepend (.ofNat (0x10000 + (h - 0xD800) * 0x400 + (low - 0xDC00))))
      else .error .malformed
  | some _, _ => .error .malformed
  | none, '"' :: cs => .ok ([], cs)
  | none, '\\' :: 'u' :: cs =>
    match codeUnit cs with
    | .error f => .error f
    | .ok n =>
      if 0xDC00 ≤ n && n < 0xE000 then .error .malformed
      else if 0xD800 ≤ n && n < 0xDC00 then scanText (some n) (cs.drop 4)
      else (scanText none (cs.drop 4)).map (prepend (.ofNat n))
  | none, '\\' :: c :: cs =>
    match shortEscape? c with
    | none => .error .malformed
    | some d => (scanText none cs).map (prepend d)
  | none, c :: cs =>
    if c.toNat < 32 then .error .malformed
    else (scanText none cs).map (prepend c)
termination_by cs.length
decreasing_by all_goals simp <;> omega

def isScalarChar (c : Char) : Bool :=
  c.isAlphanum || c == '+' || c == '-' || c == '.'

/-- The word that a run begins with, and what follows it. It is unfinished if the run may be its
beginning. -/
def scanScalar (run : List Char) : Except Fault (Json × List Char) :=
  match run with
  | 'n' :: 'u' :: 'l' :: 'l' :: cs => .ok (.null, cs)
  | 't' :: 'r' :: 'u' :: 'e' :: cs => .ok (.bool true, cs)
  | 'f' :: 'a' :: 'l' :: 's' :: 'e' :: cs => .ok (.bool false, cs)
  | run =>
    if ["null", "true", "false"].any (run.isPrefixOf ·.toList) then .error .unfinished
    else scanNumber run

/-- The tokens of a run of scalar characters. An unfinished scalar is malformed unless the text
ends after it, and so is what follows a scalar in the run. -/
def ofRun (run : List Char) (atEnd : Bool) : List Token :=
  match scanScalar run with
  | .ok (v, []) => [.scalar v]
  | .ok (v, _) => [.scalar v, .broken .malformed]
  | .error .unfinished => [.broken (if atEnd then .unfinished else .malformed)]
  | .error .malformed => [.broken .malformed]

def punctuation? : Char → Option Token
  | '[' => some .openArray
  | ']' => some .closeArray
  | '{' => some .openObject
  | '}' => some .closeObject
  | ',' => some .comma
  | ':' => some .colon
  | _ => none

theorem length_of_map_prepend {c : Char} {x : Except Fault (List Char × List Char)} {n : Nat}
    (hx : ∀ r, x = .ok r → r.2.length ≤ n) {r : List Char × List Char}
    (h : x.map (prepend c) = .ok r) : r.2.length ≤ n := by
  cases x with
  | error f => simp [Except.map] at h
  | ok a =>
    obtain rfl : prepend c a = r := by simpa [Except.map] using h
    exact hx a rfl

theorem length_of_scanText {high : Option Nat} {cs : List Char} {r : List Char × List Char}
    (h : scanText high cs = .ok r) : r.2.length ≤ cs.length := by
  fun_induction scanText high cs generalizing r with
  | case4 _ cs _ _ _ ih | case11 cs _ _ _ _ ih =>
    have hle := length_of_map_prepend (fun r hr => ih hr) h
    simp at hle ⊢
    omega
  | case7 => cases h; simp
  | case10 _ _ _ _ _ ih =>
    have hle := ih h
    simp at hle ⊢
    omega
  | case13 _ _ _ _ _ ih | case15 _ _ _ _ _ _ _ ih =>
    have hle := length_of_map_prepend (fun r hr => ih hr) h
    simp at hle ⊢
    omega
  | _ => cases h

def read (cs : List Char) : List Token :=
  match cs with
  | [] => []
  | c :: cs =>
    if isBlank c then read cs
    else match punctuation? c with
    | some t => t :: read cs
    | none =>
      if c == '"' then
        match _h : scanText none cs with
        | .ok r => .text (.ofList r.1) :: read r.2
        | .error f => [.brokenText f]
      else if isScalarChar c then
        let rest := cs.dropWhile isScalarChar
        ofRun (c :: cs.takeWhile isScalarChar) rest.isEmpty ++ read rest
      else [.broken .malformed]
termination_by cs.length
decreasing_by
  all_goals simp only [List.length_cons]
  · omega
  · omega
  · exact Nat.lt_succ_of_le (length_of_scanText _h)
  · exact Nat.lt_succ_of_le (List.dropWhile_sublist _).length_le

end Token

end SchemaProjection.Json
