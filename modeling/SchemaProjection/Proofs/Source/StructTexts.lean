import Mathlib.Data.List.Basic
import SchemaProjection.Proofs.Source.Derives
import SchemaProjection.Proofs.Text.Literal
import SchemaProjection.Proofs.Text.Parts

namespace SchemaProjection.Source

open Text

variable {xs before rest body : List String} {head other line name w : String}
  {fields : List FieldText} {params : List (String × String)}

section Blocks

def outdented (lines : List String) : List String :=
  lines.map fun line => .ofList (line.toList.drop 4)

/-- The first line of a block with the head, or its only line. -/
def IsHead (head line : String) : Prop :=
  line = head ++ " \x7b" ∨ line = head ++ " \x7b\x7d"

def block? (head : String) : List String → Option (List String)
  | [] => none
  | line :: rest =>
    if line = head ++ " \x7b" then some (outdented (rest.takeWhile (· != "\x7d")))
    else if line = head ++ " \x7b\x7d" then some []
    else block? head rest

theorem outdented_indented (xs : List String) : outdented (indented xs) = xs := by
  rw [outdented, indented, List.map_map]
  refine (List.map_congr_left fun line _ => ?_).trans (List.map_id xs)
  rw [Function.comp_apply, id]
  split
  next h =>
    rw [String.isEmpty_iff.mp h]
    rfl
  next =>
    rw [String.toList_append]
    exact String.ofList_toList

theorem ne_close_of_mem_indented : ∀ l ∈ indented xs, (l != "\x7d") = true := by
  intro l hl
  have hfront := front?_of_mem_indented (p := (· ≠ some '\x7d')) (by decide) (by decide) l hl
  rw [bne_iff_ne]
  rintro rfl
  exact hfront (by decide)

theorem block?_block_append (head : String) (body rest : List String) :
    block? head (block head body ++ rest) = some body := by
  rw [block, List.append_assoc, List.cons_append, block?, if_pos rfl,
    List.takeWhile_append_of_pos ne_close_of_mem_indented, List.singleton_append,
    List.takeWhile_cons_of_neg (by decide), List.append_nil, outdented_indented]

theorem append_open_ne (a b : String) : a ++ " \x7b" ≠ b ++ " \x7b\x7d" := by
  intro h
  have hlast := congrArg (·.toList.getLast?) h
  simp [String.toList_append] at hlast

theorem block?_cons_empty (head : String) (rest : List String) :
    block? head ((head ++ " \x7b\x7d") :: rest) = some [] := by
  rw [block?, if_neg (append_open_ne head head).symm, if_pos rfl]

theorem IsHead.unique (h : IsHead head line) (ho : IsHead other line) : head = other := by
  obtain rfl | rfl := h
  · obtain h | h := ho
    · exact String.append_left_inj _ |>.mp h
    · exact absurd h (append_open_ne _ _)
  · obtain h | h := ho
    · exact absurd h.symm (append_open_ne _ _)
    · exact String.append_left_inj _ |>.mp h

/-- No block with the head begins among the lines. -/
def Lacks (head : String) (lines : List String) : Prop :=
  ∀ l ∈ lines, ¬ IsHead head l

theorem block?_append (h : Lacks head before) (rest : List String) :
    block? head (before ++ rest) = block? head rest := by
  induction before with
  | nil => rfl
  | cons line before ih =>
    obtain ⟨hline, hbefore⟩ := List.forall_mem_cons.mp h
    rw [List.cons_append, block?, if_neg (fun hl => hline (.inl hl)),
      if_neg (fun hl => hline (.inr hl)), ih hbefore]

theorem lacks_append_iff : Lacks head (xs ++ before) ↔ Lacks head xs ∧ Lacks head before :=
  List.forall_mem_append

theorem lacks_cons (hline : Lacks head [line]) (h : Lacks head xs) : Lacks head (line :: xs) :=
  lacks_append_iff.mpr ⟨hline, h⟩

theorem lacks_flatten_iff {parts : List (List String)} :
    Lacks head parts.flatten ↔ ∀ part ∈ parts, Lacks head part :=
  List.forall_mem_flatten

theorem lacks_of_isHead (hne : head ≠ other) (h : IsHead other line) : Lacks head [line] :=
  List.forall_mem_singleton.mpr fun hline => hne (hline.unique h)

variable (hfront : head.front? = some 'p' ∨ head.front? = some 'i')

include hfront

theorem not_isHead_of_front? (hp : line.front? ≠ some 'p') (hi : line.front? ≠ some 'i') :
    ¬ IsHead head line := by
  have hne : head ≠ "" := by
    rintro rfl
    exact absurd hfront (by decide)
  have hline (tail : String) : line ≠ head ++ tail := by
    rintro rfl
    rw [front?_append _ _ hne] at hp hi
    exact hfront.elim hp hi
  rintro (h | h)
  · exact hline _ h
  · exact hline _ h

theorem lacks_of_front? (h : ∀ l ∈ xs, l.front? ≠ some 'p' ∧ l.front? ≠ some 'i') :
    Lacks head xs :=
  fun l hl => not_isHead_of_front? hfront (h l hl).1 (h l hl).2

theorem lacks_singleton (hp : line.front? ≠ some 'p') (hi : line.front? ≠ some 'i') :
    Lacks head [line] :=
  lacks_of_front? hfront (List.forall_mem_singleton.mpr ⟨hp, hi⟩)

theorem lacks_append (start tail : String) (hne : start ≠ "") (hp : start.front? ≠ some 'p')
    (hi : start.front? ≠ some 'i') : Lacks head [start ++ tail] := by
  rw [← front?_append start tail hne] at hp hi
  exact lacks_singleton hfront hp hi

theorem lacks_block (hne : head ≠ other) (body : List String) : Lacks head (block other body) := by
  rw [block, List.cons_append, ← List.singleton_append, lacks_append_iff, lacks_append_iff]
  refine ⟨lacks_of_isHead hne (.inl rfl), fun l hl => ?_,
    lacks_singleton hfront (by decide) (by decide)⟩
  exact not_isHead_of_front? hfront
    (front?_of_mem_indented (p := (· ≠ some 'p')) (by decide) (by decide) l hl)
    (front?_of_mem_indented (p := (· ≠ some 'i')) (by decide) (by decide) l hl)

end Blocks

section Beginnings

variable {a b : String} (hab : a.toList.isPrefixOf b.toList = false)
  (hba : b.toList.isPrefixOf a.toList = false)

include hab hba

theorem not_prefix_append (tail : String) : ¬ a.toList <+: (b ++ tail).toList := by
  intro ha
  have hb := List.prefix_append b.toList tail.toList
  rw [← String.toList_append] at hb
  obtain h | h := List.prefix_or_prefix_of_prefix ha hb
  · rw [List.isPrefixOf_iff_prefix.mpr h] at hab
    cases hab
  · rw [List.isPrefixOf_iff_prefix.mpr h] at hba
    cases hba

theorem append_ne_append (x y : String) : a ++ x ≠ b ++ y := by
  intro h
  apply not_prefix_append hab hba y
  rw [← h, String.toList_append]
  exact List.prefix_append _ _

theorem append_ne (x : String) : a ++ x ≠ b := by
  rw [← String.append_empty (s := b)]
  exact append_ne_append hab hba x ""

theorem lacks_keyword (x y : String) : Lacks (a ++ x) [b ++ y] := by
  rw [Lacks, List.forall_mem_singleton]
  rintro (h | h)
  · exact append_ne_append hab hba _ _ (h.trans String.append_assoc).symm
  · exact append_ne_append hab hba _ _ (h.trans String.append_assoc).symm

end Beginnings

section Words

def isPunctuation (x : Char) : Bool :=
  [' ', ',', ':', '(', ')', '\x7b', '\x7d'].contains x

def words (line : String) : List String :=
  parts isPunctuation line

structure IsWord (w : String) : Prop where
  nonempty : w ≠ ""
  plain : ∀ x ∈ w.toList, isPunctuation x = false

theorem IsWord.words_eq (h : IsWord w) : words w = [w] :=
  parts_eq_singleton h.nonempty h.plain

def hasNoPunctuation (w : String) : Bool :=
  w.toList.all (!isPunctuation ·)

theorem hasNoPunctuation_iff :
    hasNoPunctuation w = true ↔ ∀ x ∈ w.toList, isPunctuation x = false := by
  simp [hasNoPunctuation]

theorem IsWord.of_hasNoPunctuation (hne : w ≠ "") (h : hasNoPunctuation w = true) : IsWord w :=
  ⟨hne, hasNoPunctuation_iff.mp h⟩

theorem IsWord.enclosed (h : IsWord w) {a b : String} (ha : hasNoPunctuation a = true)
    (hb : hasNoPunctuation b = true) : IsWord (a ++ w ++ b) := by
  rw [hasNoPunctuation_iff] at ha hb
  constructor
  · simp [String.append_eq_empty_iff, h.nonempty]
  · rw [String.toList_append, String.toList_append, List.forall_mem_append, List.forall_mem_append]
    exact ⟨⟨ha, h.plain⟩, hb⟩

theorem words_append (a b : String) {sep : String} (hne : sep ≠ "")
    (h : sep.toList.all isPunctuation = true) : words (a ++ sep ++ b) = words a ++ words b :=
  parts_append_separators a b hne (List.all_eq_true.mp h)

theorem words_intercalate (xs : List String) : words (", ".intercalate xs) = xs.flatMap words := by
  have hsep : ", ".toList.all isPunctuation = true := by decide
  exact parts_intercalate (by decide) (List.all_eq_true.mp hsep) xs

end Words

section Fields

/-- A field of a struct as it is found in a file. -/
structure WrittenField where
  ident : String
  type : String
  raw : String
  optional : Bool

/-- The raw name in the attribute of a field, and whether the attribute says that the field may be
left out. -/
def readMarking? (line : String) : Option (String × Bool) := do
  let quoted ← line.toList.dropPrefix? "#[serde(rename = ".toList
  let (raw, rest) ← readLiteral quoted
  if rest = ", default, skip_serializing_if = \"Option::is_none\")]".toList then some (raw, true)
  else if rest = ")]".toList then some (raw, false)
  else none

def readField? (marking line : String) : Option WrittenField := do
  let (raw, optional) ← readMarking? marking
  match words line with
  | ["pub", ident, type] => some ⟨ident, type, raw, optional⟩
  | _ => none

def readFields? : List String → Option (List WrittenField)
  | [] => some []
  | marking :: line :: rest => do return (← readField? marking line) :: (← readFields? rest)
  | _ => none

def structFields? (className : String) (lines : List String) : Option (List WrittenField) :=
  (block? ("pub struct " ++ className) lines).bind readFields?

theorem readMarking?_markingText (x : OutputField) :
    readMarking? (markingText x) = some (x.raw, x.type.nullable) := by
  have hread (rest : String) :
      (("#[serde(rename = " ++ literal x.raw ++ rest).toList.dropPrefix?
        "#[serde(rename = ".toList).bind readLiteral = some (x.raw, rest.toList) := by
    rw [String.append_assoc, String.toList_append, String.toList_append,
      List.dropPrefix?_append_of_beq _ (beq_self_eq_true _), Option.bind_some,
      readLiteral_literal]
  obtain ⟨quoted, hquoted, hliteral⟩ := Option.bind_eq_some_iff.mp (hread
    (if x.type.nullable then ", default, skip_serializing_if = \"Option::is_none\")]" else ")]"))
  have hmarking : markingText x = "#[serde(rename = " ++ literal x.raw ++
      if x.type.nullable then ", default, skip_serializing_if = \"Option::is_none\")]"
      else ")]" := by
    rw [markingText]
    split <;> rfl
  rw [readMarking?, hmarking, hquoted]
  simp only [Option.bind_eq_bind, Option.bind_some, hliteral]
  cases x.type.nullable with
  | true => exact if_pos rfl
  | false => exact (if_neg (by decide)).trans (if_pos rfl)

structure Legible (x : OutputField) : Prop where
  ident : IsWord (Identifier.ofName x.name)
  type : IsWord x.type.text

def WrittenField.ofField (x : OutputField) : WrittenField :=
  ⟨Identifier.ofName x.name, x.type.text, x.raw, x.type.nullable⟩

theorem words_fieldLine {ident type : String} (hident : IsWord ident) (htype : IsWord type) :
    words ("pub " ++ ident ++ ": " ++ type ++ ",") = ["pub", ident, type] := by
  have hline : "pub " ++ ident ++ ": " ++ type ++ "," =
      "pub" ++ " " ++ ident ++ ": " ++ type ++ "," ++ "" := by
    rw [String.append_empty]
    rfl
  rw [hline, words_append _ _ (by decide) (by decide), words_append _ _ (by decide) (by decide),
    words_append _ _ (by decide) (by decide), hident.words_eq, htype.words_eq]
  rfl

theorem readFields?_flatMap_lines {xs : List OutputField} (h : ∀ x ∈ xs, Legible x) :
    readFields? ((xs.map FieldText.ofField).flatMap FieldText.lines) =
      some (xs.map WrittenField.ofField) := by
  induction xs with
  | nil => rfl
  | cons x xs ih =>
    obtain ⟨hx, hxs⟩ := List.forall_mem_cons.mp h
    have hfield : readField? (markingText x)
        ("pub " ++ Identifier.ofName x.name ++ ": " ++ x.type.text ++ ",") =
        some (.ofField x) := by
      rw [readField?, readMarking?_markingText, words_fieldLine hx.ident hx.type]
      rfl
    rw [List.map_cons, List.flatMap_cons, FieldText.lines, List.cons_append, List.cons_append,
      List.nil_append, readFields?, FieldText.ofField, hfield, ih hxs]
    rfl

end Fields

section Constructors

def readParams? : List String → Option (List (String × String))
  | ["->", "Self"] => some []
  | ident :: type :: rest => (readParams? rest).map ((ident, type) :: ·)
  | _ => none

def isNewHead (line : String) : Bool :=
  "pub fn new(".toList.isPrefixOf line.toList

/-- The parameters of the function `new` among the given lines, and the members of the value that
the line below it gives. -/
def readConstructor? (lines : List String) : Option (List (String × String) × List String) :=
  match lines.dropWhile (!isNewHead ·) with
  | head :: value :: _ =>
    (readParams? ((words head).drop 3)).map fun params => (params, (words value).drop 1)
  | _ => none

def constructor? (className : String) (lines : List String) :
    Option (List (String × String) × List String) :=
  (block? ("impl " ++ className) lines).bind readConstructor?

theorem readParams?_flatMap (params : List (String × String)) :
    readParams? (params.flatMap (fun p => [p.1, p.2]) ++ ["->", "Self"]) = some params := by
  induction params with
  | nil => rfl
  | cons p params ih =>
    have hne : params.flatMap (fun p => [p.1, p.2]) ++ ["->", "Self"] ≠ [] :=
      List.append_ne_nil_of_right_ne_nil _ (List.cons_ne_nil _ _)
    change readParams? (p.1 :: p.2 :: (params.flatMap (fun p => [p.1, p.2]) ++ ["->", "Self"])) = _
    rw [readParams?, ih]
    · rfl
    · exact fun _ _ hnil => hne hnil

theorem words_params (h : ∀ p ∈ params, IsWord p.1 ∧ IsWord p.2) :
    words (", ".intercalate (params.map fun p => p.1 ++ ": " ++ p.2)) =
      params.flatMap fun p => [p.1, p.2] := by
  rw [words_intercalate, List.flatMap_map]
  refine List.flatMap_congr fun p hp => ?_
  obtain ⟨hident, htype⟩ := h p hp
  rw [words_append _ _ (by decide) (by decide), hident.words_eq, htype.words_eq]
  rfl

theorem words_members (h : ∀ p ∈ params, IsWord p.1 ∧ IsWord p.2) :
    words (", ".intercalate (params.map (·.1))) = params.map (·.1) := by
  rw [words_intercalate, List.flatMap_map, List.map_eq_flatMap]
  exact List.flatMap_congr fun p hp => (h p hp).1.words_eq

theorem words_newHead (inner : String) :
    words ("pub fn new(" ++ inner ++ ") -> Self" ++ " \x7b") =
      ["pub", "fn", "new"] ++ words inner ++ ["->", "Self"] := by
  have hline : "pub fn new(" ++ inner ++ ") -> Self" ++ " \x7b" =
      "pub fn new" ++ "(" ++ inner ++ ") " ++ "-> Self \x7b" := by
    have hopen : "pub fn new(" = "pub fn new" ++ "(" := rfl
    have hclose : ") -> Self" ++ " \x7b" = ") " ++ "-> Self \x7b" := rfl
    rw [hopen]
    simp only [String.append_assoc]
    rw [hclose]
  rw [hline, words_append _ _ (by decide) (by decide), words_append _ _ (by decide) (by decide)]
  rfl

theorem words_value (h : ∀ p ∈ params, IsWord p.1 ∧ IsWord p.2) :
    words ("    " ++ if params.isEmpty then "Self \x7b\x7d"
      else "Self \x7b " ++ ", ".intercalate (params.map (·.1)) ++ " \x7d") =
      "Self" :: params.map (·.1) := by
  cases params with
  | nil => rfl
  | cons p params =>
    rw [List.isEmpty_cons, if_neg Bool.false_ne_true]
    have hline (inner : String) : "    " ++ ("Self \x7b " ++ inner ++ " \x7d") =
        "    Self" ++ " \x7b " ++ inner ++ " \x7d" ++ "" := by
      rw [String.append_empty, ← String.append_assoc, ← String.append_assoc]
      rfl
    rw [hline, words_append _ _ (by decide) (by decide), words_append _ _ (by decide) (by decide),
      words_members h]
    exact List.append_nil _

theorem isNewHead_eq_false_of_front? (h : line.front? ≠ some 'p') : isNewHead line = false :=
  isPrefixOf_eq_false (by decide) h

theorem isNewHead_eq_false_of_mem_constantLines (k : OutputConstant) :
    ∀ l ∈ constantLines k, isNewHead l = false := by
  have hconstant (tail : String) : isNewHead ("pub const " ++ tail) = false := by
    rw [isNewHead, String.toList_append]
    rfl
  rw [constantLines, List.forall_mem_cons, List.forall_mem_cons, List.forall_mem_singleton]
  simp only [String.append_assoc]
  refine ⟨isNewHead_eq_false_of_front? ?_, hconstant _, by decide⟩
  rw [front?_append _ _ (by decide)]
  decide

theorem isNewHead_newHead (inner : String) :
    isNewHead ("pub fn new(" ++ inner ++ ") -> Self" ++ " \x7b") = true := by
  rw [isNewHead, String.append_assoc, String.append_assoc, String.toList_append]
  exact List.isPrefixOf_iff_prefix.mpr (List.prefix_append _ _)

theorem readConstructor?_append (habove : ∀ l ∈ before, isNewHead l = false)
    (hhead : isNewHead head = true) (value : String) (rest : List String) :
    readConstructor? (before ++ head :: value :: rest) =
      (readParams? ((words head).drop 3)).map fun params => (params, (words value).drop 1) := by
  have habove' : ∀ l ∈ before, (!isNewHead l) = true := fun l hl => by rw [habove l hl]; rfl
  have hhead' : ¬ (!isNewHead head) = true := by
    rw [hhead]
    decide
  rw [readConstructor?, List.dropWhile_append_of_pos habove',
    List.dropWhile_cons_of_neg (p := (!isNewHead ·)) hhead']

theorem readConstructor?_constructorLines (constants : List OutputConstant) (className : String)
    (h : ∀ p ∈ params, IsWord p.1 ∧ IsWord p.2) :
    readConstructor? (constants.flatMap constantLines ++ constructorLines className params) =
      some (params, params.map (·.1)) := by
  have hdoc : isNewHead ("/// Creates a new `" ++ className ++ "`.") = false := by
    apply isNewHead_eq_false_of_front?
    rw [String.append_assoc, front?_append _ _ (by decide)]
    decide
  have hlint : ∀ l ∈ if manyArguments < params.length then
      ["#[allow(clippy::too_many_arguments)]"] else [], isNewHead l = false := by
    split <;> decide
  have habove : ∀ l ∈ constants.flatMap constantLines ++
      (["/// Creates a new `" ++ className ++ "`.", "#[must_use]"] ++
        (if manyArguments < params.length then ["#[allow(clippy::too_many_arguments)]"] else [])),
      isNewHead l = false := by
    rw [List.forall_mem_append, List.forall_mem_append, List.forall_mem_flatMap]
    exact ⟨fun k _ => isNewHead_eq_false_of_mem_constantLines k,
      List.forall_mem_cons.mpr ⟨hdoc, List.forall_mem_singleton.mpr (by decide)⟩, hlint⟩
  have hvalue : indented [if params.isEmpty then "Self \x7b\x7d"
        else "Self \x7b " ++ ", ".intercalate (params.map (·.1)) ++ " \x7d"] =
      ["    " ++ if params.isEmpty then "Self \x7b\x7d"
        else "Self \x7b " ++ ", ".intercalate (params.map (·.1)) ++ " \x7d"] := by
    cases params with
    | nil => rfl
    | cons p params => simp [indented, String.append_eq_empty_iff]
  rw [constructorLines, ← List.append_assoc, block, hvalue]
  refine (readConstructor?_append habove (isNewHead_newHead _) _ _).trans ?_
  have hparams : readParams? (((["pub", "fn", "new"] ++ params.flatMap fun p => [p.1, p.2]) ++
      ["->", "Self"]).drop 3) = some params :=
    readParams?_flatMap params
  rw [words_newHead, words_params h, words_value h, hparams]
  rfl

end Constructors

section Structs

variable {cls : OutputClass} {comparable : Bool}

theorem lacks_structHead (hfront : head.front? = some 'p' ∨ head.front? = some 'i')
    (hstruct : head ≠ "pub struct " ++ cls.name) (fields : List FieldText) :
    Lacks head ([deriveLine cls.equality comparable] ++
      (if fields.isEmpty then ["pub struct " ++ cls.name ++ " \x7b\x7d"]
       else block ("pub struct " ++ cls.name) (fields.flatMap FieldText.lines)) ++ [""]) := by
  rw [lacks_append_iff, lacks_append_iff]
  refine ⟨⟨lacks_singleton hfront ?_ ?_, ?_⟩, lacks_singleton hfront (by decide) (by decide)⟩
  · rw [front?_deriveLine]
    decide
  · rw [front?_deriveLine]
    decide
  · split
    · exact lacks_of_isHead hstruct (.inr rfl)
    · exact lacks_block hfront hstruct _

theorem lacks_structLines (hfront : head.front? = some 'p' ∨ head.front? = some 'i')
    (hstruct : head ≠ "pub struct " ++ cls.name) (himpl : head ≠ "impl " ++ cls.name)
    (fields : List FieldText) : Lacks head (structLines cls fields comparable) := by
  rw [structLines, lacks_append_iff, lacks_append_iff]
  exact ⟨⟨lacks_structHead hfront hstruct fields, lacks_block hfront himpl _⟩,
    lacks_singleton hfront (by decide) (by decide)⟩

theorem front?_keyword (keyword name : String) (hne : keyword ≠ "")
    (h : keyword.front? = some 'p' ∨ keyword.front? = some 'i') :
    (keyword ++ name).front? = some 'p' ∨ (keyword ++ name).front? = some 'i' := by
  rwa [front?_append _ _ hne]

variable (cls fields comparable) in
theorem block?_structLines (rest : List String) :
    block? ("pub struct " ++ cls.name) (structLines cls fields comparable ++ rest) =
      some (fields.flatMap FieldText.lines) := by
  have hderive : Lacks ("pub struct " ++ cls.name) [deriveLine cls.equality comparable] := by
    apply lacks_singleton (front?_keyword _ _ (by decide) (by decide))
    · rw [front?_deriveLine]
      decide
    · rw [front?_deriveLine]
      decide
  rw [structLines]
  simp only [List.append_assoc]
  rw [block?_append hderive]
  cases fields with
  | nil => exact block?_cons_empty _ _
  | cons f fields => exact block?_block_append _ _ _

variable (cls fields comparable) in
theorem block?_impl_structLines (rest : List String) :
    block? ("impl " ++ cls.name) (structLines cls fields comparable ++ rest) =
      some (cls.constants.flatMap constantLines ++
        constructorLines cls.name (fields.map fun f => (f.ident, f.type))) := by
  have hfront := front?_keyword "impl " cls.name (by decide) (by decide)
  have hstruct : "impl " ++ cls.name ≠ "pub struct " ++ cls.name :=
    append_ne_append (by decide) (by decide) _ _
  rw [structLines, List.append_assoc, List.append_assoc,
    block?_append (lacks_structHead hfront hstruct fields), block?_block_append]

theorem structFields?_structLines (h : ∀ x ∈ cls.fields, Legible x)
    (hbefore : Lacks ("pub struct " ++ cls.name) before) (rest : List String) :
    structFields? cls.name
        (before ++ (structLines cls (cls.fields.map FieldText.ofField) comparable ++ rest)) =
      some (cls.fields.map WrittenField.ofField) := by
  rw [structFields?, block?_append hbefore, block?_structLines, Option.bind_some,
    readFields?_flatMap_lines h]

theorem constructor?_structLines (h : ∀ x ∈ cls.fields, Legible x)
    (hbefore : Lacks ("impl " ++ cls.name) before) (rest : List String) :
    constructor? cls.name
        (before ++ (structLines cls (cls.fields.map FieldText.ofField) comparable ++ rest)) =
      some (cls.fields.map fun x => (Identifier.ofName x.name, x.type.text),
        cls.fields.map fun x => Identifier.ofName x.name) := by
  rw [constructor?, block?_append hbefore, block?_impl_structLines, Option.bind_some,
    readConstructor?_constructorLines]
  · rw [List.map_map, List.map_map]
    rfl
  · simp only [List.map_map, List.forall_mem_map]
    exact fun x hx => ⟨(h x hx).ident, (h x hx).type⟩

end Structs

end SchemaProjection.Source
