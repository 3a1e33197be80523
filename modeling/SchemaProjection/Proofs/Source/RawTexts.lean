import SchemaProjection.Proofs.Source.Classes
import SchemaProjection.Proofs.Source.Comparability
import SchemaProjection.Proofs.Source.Imports
import SchemaProjection.Proofs.Text.Literal

namespace SchemaProjection

variable {f : String → String}

def OutputField.retext (f : String → String) (x : OutputField) : OutputField :=
  { x with raw := f x.raw }

def OutputConstant.retext (f : String → String) (k : OutputConstant) : OutputConstant :=
  { k with value := f k.value }

def Projection.retext (f : String → String) : Projection → Projection
  | customFields typeKey => customFields (f typeKey)
  | variantAttributes productTypeId => variantAttributes (f productTypeId)
  | record => record

def OutputClass.retext (f : String → String) : OutputClass → OutputClass
  | ⟨name, fields, equality, constants, projection, none⟩ =>
    ⟨name, fields.map (·.retext f), equality, constants.map (·.retext f), projection.retext f, none⟩
  | ⟨name, fields, equality, constants, projection, some nested⟩ =>
    ⟨name, fields.map (·.retext f), equality, constants.map (·.retext f), projection.retext f,
      some (nested.retext f)⟩

def OutputUnit.retext (f : String → String) (u : OutputUnit) : OutputUnit :=
  { u with classes := u.classes.map (·.retext f) }

namespace OutputClass

variable (c : OutputClass)

@[simp] theorem name_retext : (c.retext f).name = c.name := by
  obtain ⟨_, _, _, _, _, _ | _⟩ := c <;> rfl

@[simp] theorem fields_retext : (c.retext f).fields = c.fields.map (·.retext f) := by
  obtain ⟨_, _, _, _, _, _ | _⟩ := c <;> rfl

@[simp] theorem equality_retext : (c.retext f).equality = c.equality := by
  obtain ⟨_, _, _, _, _, _ | _⟩ := c <;> rfl

@[simp] theorem constants_retext : (c.retext f).constants = c.constants.map (·.retext f) := by
  obtain ⟨_, _, _, _, _, _ | _⟩ := c <;> rfl

@[simp] theorem projection_retext : (c.retext f).projection = c.projection.retext f := by
  obtain ⟨_, _, _, _, _, _ | _⟩ := c <;> rfl

@[simp] theorem typedFields_retext : (c.retext f).typedFields = c.typedFields.retext f := by
  obtain ⟨_, _, _, _, _, _ | _⟩ := c <;> rfl

end OutputClass

namespace Source

open Text

/-- A place for a raw text, by the line that it is in. -/
inductive Place where
  | rename (optional : Bool)
  | constantComment
  | constant (name : String)
  | carrierComment
  | recordComment
  | typeKey
  | attributesComment
  | productTypeId
  | arm (className : String)

namespace Place

def before : Place → String
  | rename _ => "#[serde(rename = "
  | constantComment => "/// Raw name of the `"
  | constant name => "pub const " ++ name ++ ": &'static str = "
  | carrierComment => "/// Typed custom fields of type `"
  | recordComment => "/// Field values of type `"
  | typeKey => "const TYPE_KEY: &'static str = "
  | attributesComment => "/// Typed attributes of product type `"
  | productTypeId => ""
  | arm _ => ""

def after : Place → String
  | rename true => ", default, skip_serializing_if = \"Option::is_none\")]"
  | rename false => ")]"
  | constantComment => "` attribute."
  | constant _ => ";"
  | carrierComment => "`."
  | recordComment => "`."
  | typeKey => ";"
  | attributesComment => "`."
  | productTypeId => ""
  | arm className =>
    " => from_attributes(attributes).map(|typed| Some(Self::" ++ className ++ "(typed))),"

def spell : Place → String → String
  | constantComment | carrierComment | recordComment | attributesComment => docText
  | _ => literal

def line (p : Place) (s : String) : String :=
  p.before ++ p.spell s ++ p.after

end Place

/-- The second line is the first with `f` applied to the raw text in it, if there is one. -/
inductive LineRetexted (f : String → String) : List (Place × String) → String → String → Prop where
  | same (line : String) : LineRetexted f [] line line
  | place (p : Place) (s : String) : LineRetexted f [(p, s)] (p.line s) (p.line (f s))
  | indent {ts : List (Place × String)} {line line' : String} : LineRetexted f ts line line' →
      LineRetexted f ts ("    " ++ line) ("    " ++ line')

/-- The second lines are the first with `f` applied to the raw texts in them, which stand at the
given places in the given order. -/
inductive Retexted (f : String → String) :
    List (Place × String) → List String → List String → Prop where
  | nil : Retexted f [] [] []
  | cons {ts us : List (Place × String)} {line line' : String} {lines lines' : List String} :
      LineRetexted f ts line line' → Retexted f us lines lines' →
      Retexted f (ts ++ us) (line :: lines) (line' :: lines')

variable {ts us : List (Place × String)} {line line' : String}
  {lines lines' body body' : List String}

theorem literal_ne_empty (s : String) : literal s ≠ "" := by
  rw [Ne, ← String.toList_eq_nil_iff, toList_literal]
  exact List.cons_ne_nil _ _

theorem Place.line_ne_empty (p : Place) (s : String) : p.line s ≠ "" := by
  rw [Place.line, Ne, String.append_eq_empty_iff, String.append_eq_empty_iff]
  rintro ⟨⟨hbefore, hspell⟩, -⟩
  cases p with
  | productTypeId => exact literal_ne_empty s hspell
  | arm className => exact literal_ne_empty s hspell
  | _ => simp [Place.before] at hbefore

theorem LineRetexted.isEmpty_eq (h : LineRetexted f ts line line') :
    line.isEmpty = line'.isEmpty := by
  have hne {a b : String} (ha : a ≠ "") (hb : b ≠ "") : a.isEmpty = b.isEmpty := by
    rw [Bool.eq_iff_iff, String.isEmpty_iff, String.isEmpty_iff]
    exact iff_of_false ha hb
  cases h with
  | same => rfl
  | place p s => exact hne (p.line_ne_empty s) (p.line_ne_empty (f s))
  | indent h => exact hne (by simp) (by simp)

theorem LineRetexted.indented (h : LineRetexted f ts line line') :
    LineRetexted f ts (if line.isEmpty then line else "    " ++ line)
      (if line'.isEmpty then line' else "    " ++ line') := by
  rw [← h.isEmpty_eq]
  split
  next => exact h
  next => exact .indent h

namespace Retexted

theorem same (f : String → String) (lines : List String) : Retexted f [] lines lines := by
  induction lines with
  | nil => exact .nil
  | cons line lines ih => exact .cons (.same line) ih

theorem place (f : String → String) (p : Place) (s : String) :
    Retexted f [(p, s)] [p.line s] [p.line (f s)] :=
  .cons (.place p s) .nil

theorem append (h : Retexted f ts lines lines') (hb : Retexted f us body body') :
    Retexted f (ts ++ us) (lines ++ body) (lines' ++ body') := by
  induction h with
  | nil => exact hb
  | cons hline _ ih =>
    rw [List.append_assoc]
    exact .cons hline ih

theorem append_same (h : Retexted f ts lines lines') (body : List String) :
    Retexted f ts (lines ++ body) (lines' ++ body) := by
  have happ := h.append (same f body)
  rwa [List.append_nil] at happ

theorem same_append (body : List String) (h : Retexted f ts lines lines') :
    Retexted f ts (body ++ lines) (body ++ lines') :=
  (same f body).append h

theorem flatMap {α : Type} {texts : α → List (Place × String)} {before after : α → List String}
    {xs : List α} (h : ∀ x ∈ xs, Retexted f (texts x) (before x) (after x)) :
    Retexted f (xs.flatMap texts) (xs.flatMap before) (xs.flatMap after) := by
  induction xs with
  | nil => exact .nil
  | cons x xs ih =>
    obtain ⟨hx, hxs⟩ := List.forall_mem_cons.mp h
    exact hx.append (ih hxs)

theorem indented (h : Retexted f ts lines lines') :
    Retexted f ts (indented lines) (Source.indented lines') := by
  induction h with
  | nil => exact .nil
  | cons hline _ ih => exact .cons hline.indented ih

theorem block (head : String) (h : Retexted f ts body body') :
    Retexted f ts (block head body) (Source.block head body') :=
  ((h.indented.same_append [_]).append_same _)

end Retexted

def structTexts (c : OutputClass) : List (Place × String) :=
  c.fields.map (fun x => (.rename x.type.nullable, x.raw)) ++
    c.constants.flatMap fun k => [(.constantComment, k.value), (.constant k.name, k.value)]

def carrierTexts (typeKey : String) (record : OutputClass) : List (Place × String) :=
  [(.carrierComment, typeKey), (.typeKey, typeKey), (.recordComment, typeKey)] ++
    structTexts record

def attributesTexts (productTypeId : String) (c : OutputClass) : List (Place × String) :=
  [(.attributesComment, productTypeId)] ++ structTexts c ++ [(.productTypeId, productTypeId)]

def CarrierClass.retext (f : String → String) (k : CarrierClass) : CarrierClass :=
  { k with typeKey := f k.typeKey, record := k.record.retext f }

def AttributesClass.retext (f : String → String) (a : AttributesClass) : AttributesClass :=
  ⟨f a.productTypeId, a.struct.retext f⟩

theorem markingText_eq_line (x : OutputField) :
    markingText x = (Place.rename x.type.nullable).line x.raw := by
  rw [markingText]
  cases x.type.nullable <;> rfl

theorem arm_eq_line (a : AttributesClass) :
    fromAttributesArm a = (Place.arm a.struct.name).line a.productTypeId := by
  have happ (x m n k : String) : x ++ m ++ n ++ k = "" ++ x ++ (m ++ n ++ k) := by
    rw [String.empty_append, ← String.append_assoc, ← String.append_assoc]
  exact happ _ _ _ _

theorem retexted_field (f : String → String) (x : OutputField) :
    Retexted f [(.rename x.type.nullable, x.raw)] (FieldText.ofField x).lines
      (FieldText.ofField (x.retext f)).lines := by
  have hmark := Retexted.place f (.rename x.type.nullable) x.raw
  have hfield := hmark.append_same
    ["pub " ++ Identifier.ofName x.name ++ ": " ++ x.type.text ++ ","]
  rw [← markingText_eq_line x] at hfield
  have hretext := markingText_eq_line (x.retext f)
  change markingText (x.retext f) = (Place.rename x.type.nullable).line (f x.raw) at hretext
  rw [← hretext] at hfield
  exact hfield

theorem retexted_constant (f : String → String) (k : OutputConstant) :
    Retexted f [(.constantComment, k.value), (.constant k.name, k.value)] (constantLines k)
      (constantLines (k.retext f)) :=
  .cons (.place .constantComment k.value) (.cons (.place (.constant k.name) k.value) (.same f [""]))

theorem retexted_structHead (f : String → String) (marker head : String)
    (fields : List OutputField) :
    Retexted f (fields.map fun x => (.rename x.type.nullable, x.raw))
      (if (fields.map FieldText.ofField).isEmpty then [marker]
        else block head ((fields.map FieldText.ofField).flatMap FieldText.lines))
      (if ((fields.map (·.retext f)).map FieldText.ofField).isEmpty then [marker]
        else block head
          (((fields.map (·.retext f)).map FieldText.ofField).flatMap FieldText.lines)) := by
  cases fields with
  | nil => exact .same f [marker]
  | cons x fields =>
    apply Retexted.block
    rw [List.map_map, List.flatMap_map, List.flatMap_map, List.map_eq_flatMap]
    exact .flatMap fun x _ => retexted_field f x

theorem retexted_structLines (f : String → String) (c : OutputClass) (comparable : Bool) :
    Retexted f (structTexts c) (structLines c (c.fields.map FieldText.ofField) comparable)
      (structLines (c.retext f) ((c.retext f).fields.map FieldText.ofField) comparable) := by
  have hfields := retexted_structHead f ("pub struct " ++ c.name ++ " \x7b\x7d")
    ("pub struct " ++ c.name) c.fields
  have hconstants : Retexted f
      (c.constants.flatMap fun k => [(.constantComment, k.value), (.constant k.name, k.value)])
      (c.constants.flatMap constantLines)
      ((c.constants.map (·.retext f)).flatMap constantLines) := by
    rw [List.flatMap_map]
    exact .flatMap fun k _ => retexted_constant f k
  have hparams : ((c.fields.map (·.retext f)).map FieldText.ofField).map
      (fun x => (x.ident, x.type)) = (c.fields.map FieldText.ofField).map fun x => (x.ident, x.type) := by
    simp only [List.map_map]
    rfl
  rw [structLines, structLines, OutputClass.name_retext, OutputClass.equality_retext,
    OutputClass.fields_retext, OutputClass.constants_retext, hparams]
  have himpl := (hconstants.append_same (constructorLines c.name
    ((c.fields.map FieldText.ofField).map fun x => (x.ident, x.type)))).block ("impl " ++ c.name)
  exact (((hfields.same_append [_]).append_same [""]).append himpl).append_same [""]

theorem retexted_carrierLines (f : String → String) (typeReference customFields : String)
    (k : CarrierClass) :
    Retexted f (carrierTexts k.typeKey k.record)
      (carrierLines typeReference customFields k (k.record.fields.map FieldText.ofField))
      (carrierLines typeReference customFields (k.retext f)
        ((k.retext f).record.fields.map FieldText.ofField)) := by
  have hhead := Retexted.cons (.place .carrierComment k.typeKey) (.same f
    ["///", "/// Keeps the raw carrier it was read from.", "#[derive(Debug, Clone)]"])
  have hkey := Retexted.cons (.place .typeKey k.typeKey) (.same f [""])
  have hcomment := Retexted.same_append ["use super::*;", ""]
    (.place f .recordComment k.typeKey)
  have hrecord := hcomment.append (retexted_structLines f k.record true)
  have hname : (k.retext f).record.name = k.record.name := OutputClass.name_retext k.record
  rw [carrierLines, carrierLines, hname]
  simp only [List.append_assoc]
  refine hhead.append ?_
  -- The struct and its own functions come before the key, the conversions before the record.
  iterate 4 refine .same_append _ ?_
  refine (Retexted.block _ (hkey.append_same _)).append ?_
  iterate 8 refine .same_append _ ?_
  exact (Retexted.block _ hrecord).append_same [""]

theorem mentions_retext {c : OutputClass} {n : String} :
    Mentions (c.retext f) n ↔ Mentions c n := by
  rw [Mentions, Mentions, OutputClass.fields_retext]
  simp [OutputField.retext]

theorem contains_withoutEquality_retext (f : String → String) (classes : List OutputClass)
    (n : String) :
    (withoutEquality (classes.map (·.retext f))).contains n =
      (withoutEquality classes).contains n := by
  have hrefers : Refers (classes.map (·.retext f)) = Refers classes := by
    funext a b
    simp [Refers, mentions_retext]
  rw [Bool.eq_iff_iff, List.contains_iff_mem, List.contains_iff_mem, mem_withoutEquality_iff,
    mem_withoutEquality_iff, ReachesMarker, ReachesMarker, hrefers]
  simp

theorem retexted_attributesPart (f : String → String) (as : List AttributesClass)
    (a : AttributesClass) :
    Retexted f (attributesTexts a.productTypeId a.struct) (attributesPart as a)
      (attributesPart (as.map (·.retext f)) (a.retext f)) := by
  have hmap : (as.map (·.retext f)).map (·.struct) = (as.map (·.struct)).map (·.retext f) := by
    rw [List.map_map, List.map_map]
    rfl
  have hplace (s : String) : Place.productTypeId.line s = literal s := by
    have happ (x : String) : "" ++ x ++ "" = x := by
      rw [String.empty_append, String.append_empty]
    exact happ _
  have hid := Retexted.place f .productTypeId a.productTypeId
  rw [hplace, hplace] at hid
  have hname : (a.retext f).struct.name = a.struct.name := OutputClass.name_retext a.struct
  rw [attributesPart, attributesPart, hmap, hname, contains_withoutEquality_retext, attributesLines,
    attributesLines, hname]
  exact (((Retexted.place f .attributesComment a.productTypeId).append
    (retexted_structLines f a.struct _)).append (.block _ (.block _ hid))).append_same [""]

end Source

end SchemaProjection
