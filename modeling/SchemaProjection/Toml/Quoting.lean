import SchemaProjection.Text.Hexadecimal

namespace SchemaProjection.Toml

def isBlank (c : Char) : Bool :=
  c == ' ' || c == '\t'

def isPlain (c : Char) : Bool :=
  c == '\t' || (32 ≤ c.toNat && c != '\x7f')

def shortEscape? : Char → Option Char
  | 'b' => some '\x08'
  | 't' => some '\t'
  | 'n' => some '\n'
  | 'f' => some '\x0c'
  | 'r' => some '\r'
  | 'e' => some '\x1b'
  | '"' => some '"'
  | '\\' => some '\\'
  | _ => none

def escapeDigits : Char → Nat
  | 'x' => 2
  | 'u' => 4
  | 'U' => 8
  | _ => 0

def codePoint? (n : Nat) (cs : List Char) : Option Char := do
  guard (n ≤ cs.length)
  let code ← Text.hexValue? (cs.take n)
  guard (decide code.isValidChar)
  return .ofNat code

def escape? : List Char → Option (Char × Nat)
  | [] => none
  | c :: cs =>
    match escapeDigits c with
    | 0 => (shortEscape? c).map (·, 1)
    | n => (codePoint? n cs).map (·, n + 1)

def afterLineEnd? (cs : List Char) : Option (List Char) :=
  match cs.dropWhile isBlank with
  | '\n' :: cs => some cs
  | '\r' :: '\n' :: cs => some cs
  | _ => none

def skipGap : List Char → List Char
  | '\n' :: cs => skipGap cs
  | '\r' :: '\n' :: cs => skipGap cs
  | c :: cs => if isBlank c then skipGap cs else c :: cs
  | [] => []

theorem length_afterLineEnd {cs rest : List Char} (h : afterLineEnd? cs = some rest) :
    rest.length < cs.length := by
  have hle : (cs.dropWhile isBlank).length ≤ cs.length := (List.dropWhile_sublist _).length_le
  unfold afterLineEnd? at h
  split at h
  next heq => cases h; simp [heq] at hle; omega
  next heq => cases h; simp [heq] at hle; omega
  next => cases h

theorem length_skipGap (cs : List Char) : (skipGap cs).length ≤ cs.length := by
  fun_induction skipGap cs <;> simp <;> omega

/-- How a text is quoted. Only between double quotes a backslash begins an escape, and only a text
between triple quotes has line ends. -/
structure Quoting where
  quote : Char
  multiline : Bool

namespace Quoting

def prepend (c : Char) (r : List Char × List Char) : List Char × List Char :=
  (c :: r.1, r.2)

def afterFold? (q : Quoting) (cs : List Char) : Option (List Char) :=
  if q.multiline then (afterLineEnd? cs).map skipGap else none

theorem length_afterFold {q : Quoting} {cs rest : List Char} (h : q.afterFold? cs = some rest) :
    rest.length < cs.length := by
  unfold afterFold? at h
  split at h
  · obtain ⟨mid, hmid, rfl⟩ := Option.map_eq_some_iff.1 h
    exact Nat.lt_of_le_of_lt (length_skipGap mid) (length_afterLineEnd hmid)
  · cases h

/-- Reads up to the closing quotes, and gives the text and what follows them. Up to two quotes
right before three closing ones belong to the text. -/
def scan (q : Quoting) (cs : List Char) : Option (List Char × List Char) :=
  match cs with
  | [] => none
  | c :: cs =>
    if c == q.quote then
      if !q.multiline then some ([], cs)
      else if cs.take 2 == [c, c] then
        let extra := ((cs.drop 2).takeWhile (· == c)).take 2
        some (extra, cs.drop (2 + extra.length))
      else (q.scan cs).map (prepend c)
    else if c == '\\' && q.quote == '"' then
      match _h : q.afterFold? cs with
      | some rest => q.scan rest
      | none =>
        match escape? cs with
        | some (d, n) => (q.scan (cs.drop n)).map (prepend d)
        | none => none
    else if c == '\n' || (c == '\r' && cs.head? == some '\n') then
      if q.multiline then (q.scan cs).map (prepend c) else none
    else if isPlain c then (q.scan cs).map (prepend c)
    else none
termination_by cs.length
decreasing_by
  all_goals simp only [List.length_cons, List.length_drop]
  any_goals omega
  have := length_afterFold _h
  omega

theorem length_of_map_prepend {c : Char} {x : Option (List Char × List Char)} {n : Nat}
    (hx : ∀ r, x = some r → r.2.length ≤ n) {r : List Char × List Char}
    (h : x.map (prepend c) = some r) : r.2.length ≤ n := by
  obtain ⟨a, ha, rfl⟩ := Option.map_eq_some_iff.1 h
  exact hx a ha

theorem length_of_scan {q : Quoting} {cs : List Char} {r : List Char × List Char}
    (h : q.scan cs = some r) : r.2.length ≤ cs.length := by
  fun_induction scan q cs generalizing r with
  | case1 => cases h
  | case2 => cases h; simp
  | case3 => cases h; simp; omega
  | case5 _ _ _ _ _ hrest ih =>
    have := ih h
    have := length_afterFold hrest
    simp; omega
  | case6 _ _ _ _ _ _ _ _ ih =>
    have := length_of_map_prepend (fun _ => ih) h
    simp at this ⊢; omega
  | case4 _ _ _ _ _ ih | case8 _ _ _ _ _ _ ih | case10 _ _ _ _ _ _ ih =>
    have := length_of_map_prepend (fun _ => ih) h
    simp; omega
  | _ => cases h

end Quoting

end SchemaProjection.Toml
