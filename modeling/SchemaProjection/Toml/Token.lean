import SchemaProjection.Toml.Quoting

namespace SchemaProjection.Toml

inductive Token where
  | newline
  | blank (c : Char)
  | equals
  | comma
  | openBracket
  | closeBracket
  | openBrace
  | closeBrace
  | word (cs : List Char)
  | text (s : String) (multiline : Bool)
  deriving DecidableEq

namespace Token

def punctuation? (c : Char) : Option Token :=
  match c with
  | '\n' => some .newline
  | '=' => some .equals
  | ',' => some .comma
  | '[' => some .openBracket
  | ']' => some .closeBracket
  | '{' => some .openBrace
  | '}' => some .closeBrace
  | c => if isBlank c then some (.blank c) else none

def isWordChar (c : Char) : Bool :=
  (punctuation? c).isNone && c != '\r' && c != '#'

def isQuote (c : Char) : Bool :=
  c == '"' || c == '\''

def spanWord (afterDot : Bool) : List Char → List Char × List Char
  | [] => ([], [])
  | c :: cs =>
    if isWordChar c && !(afterDot && isQuote c) then
      let r := spanWord (c == '.') cs
      (c :: r.1, r.2)
    else ([], c :: cs)

/-- How the text is quoted that begins with the given quote, and the characters from its first one
on. A line end right after three quotes does not count. -/
def openText (quote : Char) (cs : List Char) : Quoting × List Char :=
  if cs.take 2 == [quote, quote] then
    match cs.drop 2 with
    | '\n' :: cs => (⟨quote, true⟩, cs)
    | '\r' :: '\n' :: cs => (⟨quote, true⟩, cs)
    | cs => (⟨quote, true⟩, cs)
  else (⟨quote, false⟩, cs)

theorem length_spanWord (afterDot : Bool) (cs : List Char) :
    (spanWord afterDot cs).2.length ≤ cs.length := by
  fun_induction spanWord afterDot cs with
  | case1 => exact Nat.le_refl _
  | case2 _ _ _ _ _ ih => exact Nat.le_succ_of_le ih
  | case3 => exact Nat.le_refl _

theorem length_openText (quote : Char) (cs : List Char) :
    (openText quote cs).2.length ≤ cs.length := by
  unfold openText
  have hle := (List.drop_sublist 2 cs).length_le
  split
  · split
    next heq => simp [heq] at hle ⊢; omega
    next heq => simp [heq] at hle ⊢; omega
    next => exact hle
  · exact Nat.le_refl _

def read? (cs : List Char) : Option (List Token) :=
  match cs with
  | [] => some []
  | '\r' :: '\n' :: cs => (read? cs).map (.newline :: ·)
  | '#' :: cs =>
    if (cs.takeWhile (fun c => c != '\r' && c != '\n')).all isPlain then
      read? (cs.dropWhile (fun c => c != '\r' && c != '\n'))
    else none
  | c :: cs =>
    match punctuation? c with
    | some t => (read? cs).map (t :: ·)
    | none =>
      if isQuote c then
        let opened := openText c cs
        match _h : opened.1.scan opened.2 with
        | some r => (read? r.2).map (.text (.ofList r.1) opened.1.multiline :: ·)
        | none => none
      else if isWordChar c then
        let r := spanWord (c == '.') cs
        (read? r.2).map (.word (c :: r.1) :: ·)
      else none
termination_by cs.length
decreasing_by
  all_goals simp only [List.length_cons]
  · omega
  · exact Nat.lt_succ_of_le (List.dropWhile_sublist _).length_le
  · omega
  · have := Quoting.length_of_scan _h
    have : opened.2.length ≤ cs.length := length_openText c cs
    omega
  · exact Nat.lt_succ_of_le (length_spanWord _ cs)

end Token

end SchemaProjection.Toml
