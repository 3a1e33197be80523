import SchemaProjection.Proofs.AttributeLevels
import SchemaProjection.Proofs.Source.Faults
import SchemaProjection.Proofs.Source.Imports

namespace SchemaProjection

/-- Type expressions of the generated source. What comes from elsewhere is known by its text. -/
inductive TypeExpr where
  | given (text : String)
  | generated (className : String)
  | box (t : TypeExpr)
  | vec (t : TypeExpr)
  | option (t : TypeExpr)

namespace TypeExpr

def text : TypeExpr → String
  | given text => text
  | generated className => className
  | box t => "Box<" ++ t.text ++ ">"
  | vec t => "Vec<" ++ t.text ++ ">"
  | option t => "Option<" ++ t.text ++ ">"

/-- The generated classes that a value of the type holds in itself, not behind a pointer. -/
def inPlace : TypeExpr → List String
  | generated className => [className]
  | option t => t.inPlace
  | _ => []

end TypeExpr

def Shape.leafExpr (boxed : Bool) : Shape → TypeExpr
  | .primitive p => .given p.text
  | .sdk t => .given t.name
  | .generated className => if boxed then .box (.generated className) else .generated className
  | .attributeList => .vec (.given SdkType.rawAttribute.name)
  | .any => .given "Value"
  | .set _ element => element.leafExpr boxed

/-- A type as it is written: a vector for each set, whatever is said of its elements, and a class
that is in no set is boxed. -/
def OutputType.expr (t : OutputType) : TypeExpr :=
  let sets := TypeExpr.vec^[t.shape.depth] (t.shape.leafExpr (t.shape.depth == 0))
  if t.nullable then .option sets else sets

def OutputUnit.fieldTypes (u : OutputUnit) (className : String) : List TypeExpr :=
  (u.classes.filter (·.name == className)).flatMap fun cls =>
    (cls.fieldsClass u.domain).fields.map (·.type.expr)

section FiniteSize

variable {fieldTypes : String → List TypeExpr} {t : TypeExpr} {n : String}

/-- The values of the type can be laid out in finitely many steps. A box and a vector are pointers,
whatever they point to; a struct holds its fields, of which `fieldTypes` gives the types. -/
inductive FiniteSize (fieldTypes : String → List TypeExpr) : TypeExpr → Prop where
  | given (text : String) : FiniteSize fieldTypes (.given text)
  | box (t : TypeExpr) : FiniteSize fieldTypes (.box t)
  | vec (t : TypeExpr) : FiniteSize fieldTypes (.vec t)
  | option {t : TypeExpr} (h : FiniteSize fieldTypes t) : FiniteSize fieldTypes (.option t)
  | generated {n : String} (h : ∀ t ∈ fieldTypes n, FiniteSize fieldTypes t) :
    FiniteSize fieldTypes (.generated n)

theorem finiteSize_of_inPlace_eq_nil (h : t.inPlace = []) : FiniteSize fieldTypes t := by
  induction t with
  | given text => exact .given text
  | generated className => cases h
  | box t => exact .box t
  | vec t => exact .vec t
  | option t ih => exact .option (ih h)

theorem not_finiteSize_of_mem_inPlace (ht : t ∈ fieldTypes n) (hn : n ∈ t.inPlace) :
    ¬ FiniteSize fieldTypes (.generated n) := by
  have hnone (x : TypeExpr) (hx : FiniteSize fieldTypes x) : n ∉ x.inPlace := by
    induction hx with
    | given | box | vec => exact List.not_mem_nil
    | option _ ih => exact ih
    | generated _ ih =>
      intro hm
      obtain rfl := List.mem_singleton.mp hm
      exact ih t ht hn
  exact fun h => hnone _ h (List.mem_singleton_self n)

end FiniteSize

theorem Shape.text_eq_text_leafExpr (inSet : Bool) (s : Shape) :
    s.text inSet =
      (TypeExpr.vec^[s.depth] (s.leafExpr (s.depth == 0 && !inSet))).text := by
  induction s generalizing inSet with
  | set nullable element ih =>
    rw [text, depth, Function.iterate_succ_apply', TypeExpr.text, ih, leafExpr, Bool.and_comm]
    rfl
  | generated className => cases inSet <;> rfl
  | _ => rfl

theorem OutputType.text_eq_text_expr (t : OutputType) : t.text = t.expr.text := by
  rw [text, expr, Shape.text_eq_text_leafExpr, Bool.not_false, Bool.and_true]
  split <;> rfl

theorem OutputType.inPlace_expr (t : OutputType) : t.expr.inPlace = [] := by
  obtain ⟨shape, nullable⟩ := t
  have hsets : (TypeExpr.vec^[shape.depth] (shape.leafExpr (shape.depth == 0))).inPlace = [] := by
    cases shape with
    | set => rw [Shape.depth, Function.iterate_succ_apply']; rfl
    | _ => rfl
  rw [expr]
  split
  · exact hsets
  · exact hsets

namespace Source

/-- What can be asked for while source is written. -/
inductive Request where
  | fieldType (t : OutputType)
  | sdkType (t : SdkType)
  | path (path : String)

namespace Request

variable {sdkCrate : String}

def write (sdkCrate : String) : Request → Importing (Option String)
  | fieldType t => some <$> typeText sdkCrate t
  | sdkType t => some <$> sdkText sdkCrate t
  | path p => (fun _ => none) <$> useImport p

def writeAll (sdkCrate : String) (requests : List Request) : Importing (List (Option String)) :=
  requests.mapM (write sdkCrate)

def answer : Request → Option String
  | fieldType t => some t.expr.text
  | sdkType t => some t.name
  | path _ => none

def paths (sdkCrate : String) : Request → List String
  | fieldType t => t.shape.paths sdkCrate
  | sdkType t => [t.importPath sdkCrate]
  | path p => [p]

theorem writes_write (r : Request) : Writes (r.write sdkCrate) r.answer (r.paths sdkCrate) := by
  cases r with
  | fieldType t =>
    have h : Writes (typeText sdkCrate t) t.text (t.shape.paths sdkCrate) := writes_typeText t
    rw [t.text_eq_text_expr] at h
    exact writes_map some h
  | sdkType t => exact writes_map some (writes_sdkText t)
  | path p => exact fun _ => rfl

theorem writes_writeAll (requests : List Request) :
    Writes (writeAll sdkCrate requests) (requests.map answer)
      (requests.flatMap (·.paths sdkCrate)) :=
  writes_mapM fun r _ => r.writes_write

theorem mem_keys_write {r : Request} {path : String} :
    path ∈ ((r.write sdkCrate).run ∅).2.keys ↔ path ∈ r.paths sdkCrate := by
  rw [r.writes_write ∅, Imports.mem_keys_addAll]
  exact or_iff_left List.not_mem_nil

end Request

theorem shapeText_erased (sdkCrate : String) (inSet : Bool) (s : Shape) :
    shapeText sdkCrate inSet s.erased = shapeText sdkCrate inSet s := by
  induction s generalizing inSet with
  | set nullable element ih => rw [Shape.erased, shapeText, shapeText, ih]
  | _ => rfl

/-- Whatever is asked for, in whatever order, each text is the one that a new writer gives, and what
is imported is what any of the texts needs. The text of a type has a vector for each set and is
optional if the type is nullable itself. No text holds a generated class in place, so that no struct
of a unit is without a finite size. -/
theorem texts_independent_and_finite (sdkCrate : String) :
    (∀ (requests : List Request) (imports : Imports),
      ((Request.writeAll sdkCrate requests).run imports).1 =
        requests.map (fun r => ((r.write sdkCrate).run ∅).1) ∧
      ∀ path, path ∈ ((Request.writeAll sdkCrate requests).run imports).2.keys ↔
        path ∈ imports.keys ∨ ∃ r ∈ requests, path ∈ ((r.write sdkCrate).run ∅).2.keys) ∧
    (∀ (requests requests' : List Request) (imports : Imports), requests.Perm requests' →
      ((Request.writeAll sdkCrate requests).run imports).2 =
        ((Request.writeAll sdkCrate requests').run imports).2) ∧
    (∀ (t : OutputType) (imports : Imports),
      ((typeText sdkCrate t).run imports).1 = t.expr.text) ∧
    (∀ t : OutputType, typeText sdkCrate ⟨t.shape.erased, t.nullable⟩ = typeText sdkCrate t) ∧
    (∀ t : OutputType, t.expr.inPlace = []) ∧
    ∀ (u : OutputUnit) (className : String), FiniteSize u.fieldTypes (.generated className) := by
  refine ⟨fun requests imports => ⟨?_, fun path => ?_⟩, fun requests requests' imports h => ?_,
    fun t imports => ?_, fun t => ?_, OutputType.inPlace_expr, fun u n => .generated fun t ht => ?_⟩
  · rw [Request.writes_writeAll requests imports]
    exact List.map_congr_left fun r _ => by rw [r.writes_write ∅]
  · simp only [Request.writes_writeAll requests imports, Imports.mem_keys_addAll,
      List.mem_flatMap, Request.mem_keys_write]
    exact or_comm
  · rw [Request.writes_writeAll requests imports, Request.writes_writeAll requests' imports]
    exact Imports.addAll_congr (fun path => (h.flatMap_right _).mem_iff) imports
  · rw [writes_typeText t imports, t.text_eq_text_expr]
  · rw [typeText, typeText, shapeText_erased]
  · obtain ⟨cls, -, hcls⟩ := List.mem_flatMap.mp ht
    obtain ⟨f, -, rfl⟩ := List.mem_map.mp hcls
    exact finiteSize_of_inPlace_eq_nil f.type.inPlace_expr

def dolls : OutputUnit where
  domain := .variantAttributes
  package := []
  classes :=
    [{ name := "Doll"
       fields :=
        [⟨"inner", ⟨.generated "Doll", true⟩, "inner"⟩,
         ⟨"rows", ⟨.set true (.set false (.generated "Doll")), true⟩, "rows"⟩,
         ⟨"made", ⟨.set true (.primitive .date), false⟩, "made"⟩]
       equality := .structural
       constants := []
       projection := .variantAttributes "doll"
       nested := none }]

theorem texts_independent_and_finite_dolls :
    ∃ a b : Request, [a, b].Perm [b, a] ∧
      ((Request.writeAll "sdk" [a, b]).run ∅).1 =
        [some "Option<Vec<Vec<Doll>>>", some "Vec<NaiveDate>"] ∧
      ((Request.writeAll "sdk" [a, b]).run ∅).2 = ((Request.writeAll "sdk" [b, a]).run ∅).2 ∧
      (dolls.fieldTypes "Doll").map TypeExpr.text =
        ["Option<Box<Doll>>", "Option<Vec<Vec<Doll>>>", "Vec<NaiveDate>"] ∧
      FiniteSize dolls.fieldTypes (.generated "Doll") ∧
      ¬ FiniteSize (fun _ => [.option (.generated "Doll")]) (.generated "Doll") := by
  obtain ⟨-, horder, -, -, -, hfinite⟩ := texts_independent_and_finite "sdk"
  have hswap := List.Perm.swap (Request.fieldType ⟨.set true (.primitive .date), false⟩)
    (.fieldType ⟨.set true (.set false (.generated "Doll")), true⟩) []
  exact ⟨_, _, hswap, by decide +kernel, horder _ _ ∅ hswap, by decide +kernel,
    hfinite dolls "Doll",
    not_finiteSize_of_mem_inPlace List.mem_cons_self (List.mem_singleton_self "Doll")⟩

end Source

end SchemaProjection
