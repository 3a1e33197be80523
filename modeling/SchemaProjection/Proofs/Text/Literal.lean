import Mathlib.Logic.Function.Defs
import SchemaProjection.Text.Hexadecimal
import SchemaProjection.Text.Quoted

namespace SchemaProjection.Text

variable {quotes : List Char} {c d : Char} {cs : List Char} {s t : String}

inductive LiteralState where
  | text
  | escape
  | byte
  | byteEnd (high : Nat)
  | codeOpen
  /-- Among the digits of a code point, of which so many have been read, with their value. -/
  | code (count value : Nat)
  /-- Among the blanks that a backslash at the end of a line removes. -/
  | skip
  deriving DecidableEq

/-- What a letter after a backslash stands for. -/
def escapeLetters : List (Char × Char) :=
  [('0', '\x00'), ('t', '\t'), ('r', '\r'), ('n', '\n'), ('\\', '\\'), ('"', '"'), ('\'', '\'')]

def LiteralState.textStep (c : Char) : Option (LiteralState × List Char) :=
  if c == '\\' then some (escape, [])
  else if c == '\r' then none
  else some (text, [c])

/-- The next state, and what is known of the text by the character. -/
def LiteralState.step : LiteralState → Char → Option (LiteralState × List Char)
  | text, c => textStep c
  | escape, c =>
    if c == 'x' then some (byte, [])
    else if c == 'u' then some (codeOpen, [])
    else if c == '\n' then some (skip, [])
    else (escapeLetters.lookup c).map fun d => (text, [d])
  | byte, c => do
    let high ← hexDigit? c
    if high < 8 then some (byteEnd high, []) else none
  | byteEnd high, c => (hexDigit? c).map fun low => (text, [Char.ofNat (16 * high + low)])
  | codeOpen, c => if c == '{' then some (code 0 0, []) else none
  | code 0 value, c => (hexDigit? c).map fun digit => (code 1 (16 * value + digit), [])
  | code (count + 1) value, c =>
    if c == '}' then if value.isValidChar then some (text, [Char.ofNat value]) else none
    else if c == '_' then some (code (count + 1) value, [])
    else if count + 1 < 6 then
      (hexDigit? c).map fun digit => (code (count + 2) (16 * value + digit), [])
    else none
  | skip, c => if [' ', '\t', '\n', '\r'].contains c then some (skip, []) else textStep c

def LiteralState.endsAt : LiteralState → Char → Bool
  | text, c => c == '"'
  | skip, c => c == '"'
  | _, _ => false

def readChars : LiteralState → List Char → Option (List Char × List Char)
  | _, [] => none
  | state, c :: cs =>
    if state.endsAt c then some ([], cs)
    else (state.step c).bind fun (next, known) =>
      (readChars next cs).map fun (text, rest) => (known ++ text, rest)

def readLiteral : List Char → Option (String × List Char)
  | '"' :: cs => (readChars .text cs).map fun (text, rest) => (.ofList text, rest)
  | _ => none

theorem readChars_cons {state next : LiteralState} {known : List Char}
    (he : state.endsAt c = false) (h : state.step c = some (next, known)) (cs : List Char) :
    readChars state (c :: cs) =
      (readChars next cs).map fun (text, rest) => (known ++ text, rest) := by
  rw [readChars, he, h]
  rfl

theorem readChars_cons_silent {state next : LiteralState} (he : state.endsAt c = false)
    (h : state.step c = some (next, [])) (cs : List Char) :
    readChars state (c :: cs) = readChars next cs := by
  rw [readChars_cons he h]
  exact congrFun Option.map_id _

theorem forall_mem_toDigits {p : Char → Prop} (h : ∀ digit < 16, p (Nat.digitChar digit))
    (n : Nat) : ∀ c ∈ Nat.toDigits 16 n, p c := by
  induction n using Nat.strongRecOn with
  | ind n ih =>
    by_cases hn : n < 16
    · rw [Nat.toDigits_of_lt_base hn, List.forall_mem_singleton]
      exact h n hn
    · rw [Nat.toDigits_of_base_le (by decide) (by omega), List.forall_mem_append,
        List.forall_mem_singleton]
      exact ⟨ih (n / 16) (by omega), h (n % 16) (by omega)⟩

theorem hexDigit?_digitChar : ∀ digit < 16, hexDigit? (Nat.digitChar digit) = some digit := by
  decide

theorem step_code_digitChar {count digit : Nat} (hc : count < 6) (hd : digit < 16) (value : Nat) :
    (LiteralState.code count value).step (Nat.digitChar digit) =
      some (.code (count + 1) (16 * value + digit), []) := by
  have hne : ∀ k < 16, (Nat.digitChar k == '}') = false ∧ (Nat.digitChar k == '_') = false := by
    decide
  cases count with
  | zero =>
    rw [LiteralState.step, hexDigit?_digitChar digit hd]
    rfl
  | succ count =>
    rw [LiteralState.step, (hne digit hd).1, (hne digit hd).2, hexDigit?_digitChar digit hd]
    simp [hc]

theorem readChars_toDigits {n : Nat} (h : (Nat.toDigits 16 n).length ≤ 6) (cs : List Char) :
    readChars (.code 0 0) (Nat.toDigits 16 n ++ cs) =
      readChars (.code (Nat.toDigits 16 n).length n) cs := by
  -- Digits are made from the last to the first but read from the first, so what is generalized is
  -- the text after them: the last digit is part of it.
  induction n using Nat.strongRecOn generalizing cs with
  | ind n ih =>
    by_cases hn : n < 16
    · rw [Nat.toDigits_of_lt_base hn, List.singleton_append,
        readChars_cons_silent rfl (step_code_digitChar (by decide) hn 0)]
      simp
    · rw [Nat.toDigits_of_base_le (by decide) (by omega), List.length_append,
        List.length_singleton] at h ⊢
      rw [List.append_assoc, ih (n / 16) (by omega) (by omega), List.singleton_append,
        readChars_cons_silent rfl (step_code_digitChar (by omega) (by omega) _),
        Nat.div_add_mod]

theorem length_toDigits_toNat_le (c : Char) : (Nat.toDigits 16 c.toNat).length ≤ 6 := by
  rw [Nat.length_toDigits_le_iff (by decide) (by decide)]
  have hc := c.valid
  simp only [UInt32.isValidChar, Nat.isValidChar] at hc
  change c.val.toNat < _
  omega

theorem step_code_end (c : Char) :
    (LiteralState.code (Nat.toDigits 16 c.toNat).length c.toNat).step '}' = some (.text, [c]) := by
  obtain ⟨count, hcount⟩ := Nat.exists_eq_succ_of_ne_zero
    (Nat.ne_of_gt (Nat.length_toDigits_pos (b := 16) (n := c.toNat)))
  have hvalid : c.toNat.isValidChar := c.valid
  rw [hcount, LiteralState.step, Char.ofNat_toNat]
  simp [hvalid]

theorem readChars_codeEscape (c : Char) (cs : List Char) :
    readChars .text (codeEscape c ++ cs) =
      (readChars .text cs).map fun (text, rest) => (c :: text, rest) := by
  rw [codeEscape, List.append_assoc, List.append_assoc]
  simp only [List.cons_append, List.nil_append]
  rw [readChars_cons_silent rfl rfl, readChars_cons_silent rfl rfl, readChars_cons_silent rfl rfl,
    readChars_toDigits (length_toDigits_toNat_le c), readChars_cons ?_ (step_code_end c)]
  · rfl
  · rfl

theorem escapeChar_cases (hq : quotes ⊆ ['"', '\'']) (extending : Bool) (c : Char) :
    (∃ letter, (letter, c) ∈ escapeLetters ∧ escapeChar quotes extending c = ['\\', letter]) ∨
    escapeChar quotes extending c = codeEscape c ∨
    (isPrintable c = true ∧ c ≠ '\\' ∧ c ∉ quotes ∧ escapeChar quotes extending c = [c]) := by
  rw [escapeChar]
  split
  next h => exact .inl ⟨'0', by rw [eq_of_beq h]; decide, rfl⟩
  split
  next h => exact .inl ⟨'t', by rw [eq_of_beq h]; decide, rfl⟩
  split
  next h => exact .inl ⟨'r', by rw [eq_of_beq h]; decide, rfl⟩
  split
  next h => exact .inl ⟨'n', by rw [eq_of_beq h]; decide, rfl⟩
  split
  next h =>
    refine .inl ⟨c, ?_, rfl⟩
    have hc : c ∈ ['\\', '"', '\''] := by
      rw [Bool.or_eq_true, beq_iff_eq, List.contains_iff_mem] at h
      exact h.elim (fun he => he ▸ List.mem_cons_self) fun hm => List.mem_cons_of_mem _ (hq hm)
    have hself : ∀ d ∈ ['\\', '"', '\''], (d, d) ∈ escapeLetters := by
      simp [escapeLetters]
    exact hself c hc
  next hplain =>
    split
    next => exact .inr (.inl rfl)
    next hprint =>
      simp only [Bool.or_eq_true, beq_iff_eq, List.contains_iff_mem, not_or] at hplain
      refine .inr (.inr ⟨?_, hplain.1, hplain.2, rfl⟩)
      simp only [Bool.or_eq_true, not_or, Bool.not_eq_true', Bool.not_eq_false] at hprint
      exact hprint.2

theorem readChars_escapeChar (c : Char) (cs : List Char) :
    readChars .text (escapeChar ['"'] true c ++ cs) =
      (readChars .text cs).map fun (text, rest) => (c :: text, rest) := by
  have hletters : ∀ p ∈ escapeLetters,
      LiteralState.escape.step p.1 = some (.text, [p.2]) := by
    decide
  have hq : ['"'] ⊆ ['"', '\''] := by
    decide
  obtain ⟨letter, hmem, he⟩ | he | ⟨hprint, hslash, hquote, he⟩ := escapeChar_cases hq true c
  · rw [he, List.cons_append, List.cons_append, readChars_cons_silent rfl rfl,
      readChars_cons rfl (hletters _ hmem)]
    rfl
  · rw [he, readChars_codeEscape]
  · have hreturn : c ≠ '\r' := by
      rintro rfl
      exact absurd hprint (by decide)
    have hstep : LiteralState.text.step c = some (.text, [c]) := by
      simp [LiteralState.step, LiteralState.textStep, hslash, hreturn]
    have hends : LiteralState.text.endsAt c = false := by
      simpa [LiteralState.endsAt] using hquote
    rw [he, List.singleton_append, readChars_cons hends hstep]
    rfl

theorem readChars_flatMap_escapeChar (cs rest : List Char) :
    readChars .text (cs.flatMap (escapeChar ['"'] true) ++ '"' :: rest) = some (cs, rest) := by
  induction cs with
  | nil => rfl
  | cons c cs ih =>
    rw [List.flatMap_cons, List.append_assoc, readChars_escapeChar, ih]
    rfl

theorem toList_literal (s : String) :
    (literal s).toList = '"' :: (s.toList.flatMap (escapeChar ['"'] true) ++ ['"']) := by
  rw [literal, String.toList_ofList, literalChars, List.cons_append]

/-- A literal is read as the text, and it ends where it was ended. -/
theorem readLiteral_literal (s : String) (rest : List Char) :
    readLiteral ((literal s).toList ++ rest) = some (s, rest) := by
  rw [toList_literal, List.cons_append, List.append_assoc, readLiteral, List.singleton_append,
    readChars_flatMap_escapeChar]
  simp

theorem literal_inj : literal s = literal t ↔ s = t := by
  refine ⟨fun h => ?_, congrArg literal⟩
  have hread := readLiteral_literal s []
  rw [h, readLiteral_literal] at hread
  exact (congrArg Prod.fst (Option.some.inj hread)).symm

/-- Every quote in the text is escaped, and every backslash is escaped or begins an escape
sequence. -/
inductive Guarded : List Char → Prop where
  | nil : Guarded []
  | plain {c : Char} {cs : List Char} : c ≠ '"' → c ≠ '\\' → Guarded cs → Guarded (c :: cs)
  | escape {c : Char} {cs : List Char} : c ∈ 'u' :: escapeLetters.map (·.1) → Guarded cs →
      Guarded ('\\' :: c :: cs)

theorem guarded_append_of_plain {xs : List Char} (h : ∀ c ∈ xs, c ≠ '"' ∧ c ≠ '\\')
    (hcs : Guarded cs) : Guarded (xs ++ cs) := by
  induction xs with
  | nil => exact hcs
  | cons x xs ih =>
    obtain ⟨⟨hquote, hslash⟩, hxs⟩ := List.forall_mem_cons.mp h
    exact .plain hquote hslash (ih hxs)

theorem guarded_codeEscape_append (c : Char) (hcs : Guarded cs) :
    Guarded (codeEscape c ++ cs) := by
  rw [codeEscape, List.append_assoc, List.append_assoc]
  simp only [List.cons_append, List.nil_append]
  refine .escape List.mem_cons_self (.plain (by decide) (by decide) ?_)
  refine guarded_append_of_plain (forall_mem_toDigits (by decide) _) ?_
  exact .plain (by decide) (by decide) hcs

theorem guarded_flatMap_escapeChar (cs : List Char) :
    Guarded (cs.flatMap (escapeChar ['"'] true)) := by
  induction cs with
  | nil => exact .nil
  | cons c cs ih =>
    rw [List.flatMap_cons]
    have hq : ['"'] ⊆ ['"', '\''] := by
      decide
    obtain ⟨letter, hmem, he⟩ | he | ⟨-, hslash, hquote, he⟩ := escapeChar_cases hq true c
    · rw [he]
      exact .escape (List.mem_cons_of_mem _ (List.mem_map_of_mem (f := (·.1)) hmem)) ih
    · rw [he]
      exact guarded_codeEscape_append c ih
    · rw [he]
      exact .plain (by simpa using hquote) hslash ih

theorem isPrintable_of_mem_codeEscape (c : Char) : ∀ d ∈ codeEscape c, isPrintable d = true := by
  rw [codeEscape, List.forall_mem_append, List.forall_mem_append]
  exact ⟨⟨List.all_eq_true.mp rfl, forall_mem_toDigits (by decide) _⟩, List.all_eq_true.mp rfl⟩

theorem isPrintable_of_mem_escapeChar (hq : quotes ⊆ ['"', '\'']) (extending : Bool) (c : Char) :
    ∀ d ∈ escapeChar quotes extending c, isPrintable d = true := by
  have hletters : ∀ p ∈ escapeLetters, isPrintable p.1 = true :=
    List.all_eq_true.mp rfl
  obtain ⟨letter, hmem, he⟩ | he | ⟨hprint, -, -, he⟩ := escapeChar_cases hq extending c
  · rw [he]
    exact List.forall_mem_cons.mpr ⟨rfl, List.forall_mem_singleton.mpr (hletters _ hmem)⟩
  · rw [he]
    exact isPrintable_of_mem_codeEscape c
  · rw [he]
    exact List.forall_mem_singleton.mpr hprint

theorem isPrintable_of_mem_literal (s : String) :
    ∀ c ∈ (literal s).toList, isPrintable c = true := by
  rw [toList_literal, List.forall_mem_cons, List.forall_mem_append]
  refine ⟨rfl, ?_, List.forall_mem_singleton.mpr rfl⟩
  intro d hd
  obtain ⟨c, -, hc⟩ := List.mem_flatMap.mp hd
  exact isPrintable_of_mem_escapeChar (by decide) true c d hc

theorem isPrintable_of_mem_docText (s : String) :
    ∀ c ∈ (docText s).toList, isPrintable c = true := by
  rw [docText, String.toList_ofList]
  cases s.toList with
  | nil => exact List.forall_mem_nil _
  | cons c cs =>
    rw [docChars, List.forall_mem_append]
    refine ⟨isPrintable_of_mem_escapeChar (by decide) true c, ?_⟩
    intro d hd
    obtain ⟨c, -, hc⟩ := List.mem_flatMap.mp hd
    exact isPrintable_of_mem_escapeChar (by decide) false c d hc

/-- The line feed, the carriage return, and all else that a line may be taken to end at. -/
def lineBreaks : List Char :=
  ['\n', '\r', '\x0b', '\x0c', '\u0085', '\u2028', '\u2029']

theorem notMem_lineBreaks_of_isPrintable (h : isPrintable c = true) : c ∉ lineBreaks := by
  have hbreaks : ∀ d ∈ lineBreaks, (!isPrintable d) = true := by
    rw [← List.all_eq_true]
    decide +kernel
  intro hmem
  have hnot := hbreaks c hmem
  rw [h] at hnot
  cases hnot

end SchemaProjection.Text
