import SchemaProjection.Proofs.KeyMap
import SchemaProjection.Source.CustomFields
import SchemaProjection.Source.VariantAttributes

namespace SchemaProjection

def SdkType.importPath (sdkCrate : String) (t : SdkType) : String :=
  sdkCrate ++ "::" ++ t.path

def Primitive.text : Primitive → String
  | .boolean => "bool"
  | .string => "String"
  | .int => "i32"
  | .double => "f64"
  | .date => "NaiveDate"
  | .time => "NaiveTime"
  | .dateTime => "DateTime<Utc>"

def Primitive.paths : Primitive → List String
  | .date => ["chrono::NaiveDate"]
  | .time => ["chrono::NaiveTime"]
  | .dateTime => ["chrono::DateTime", "chrono::Utc"]
  | _ => []

def Shape.text (inSet : Bool) : Shape → String
  | .primitive p => p.text
  | .sdk t => t.name
  | .set _ element => "Vec<" ++ element.text true ++ ">"
  | .generated className => if inSet then className else "Box<" ++ className ++ ">"
  | .attributeList => "Vec<" ++ SdkType.rawAttribute.name ++ ">"
  | .any => "Value"

def Shape.paths (sdkCrate : String) : Shape → List String
  | .primitive p => p.paths
  | .sdk t => [t.importPath sdkCrate]
  | .set _ element => element.paths sdkCrate
  | .generated _ => []
  | .attributeList => [SdkType.rawAttribute.importPath sdkCrate]
  | .any => ["serde_json::Value"]

def OutputType.text (t : OutputType) : String :=
  if t.nullable then "Option<" ++ t.shape.text false ++ ">" else t.shape.text false

namespace Source

def Imports.addAll (imports : Imports) (paths : List String) : Imports :=
  paths.foldl (fun m path => m.insert path ()) imports

theorem Imports.addAll_append (imports : Imports) (ps qs : List String) :
    imports.addAll (ps ++ qs) = (imports.addAll ps).addAll qs :=
  List.foldl_append

theorem Imports.mem_keys_addAll {imports : Imports} {paths : List String} {path : String} :
    path ∈ (imports.addAll paths).keys ↔ path ∈ paths ∨ path ∈ imports.keys := by
  induction paths generalizing imports with
  | nil => simp [addAll]
  | cons p ps ih =>
    have h : imports.addAll (p :: ps) = Imports.addAll (imports.insert p ()) ps := rfl
    rw [h, ih, KeyMap.mem_keys_insert, List.mem_cons]
    exact or_left_comm.trans or_assoc.symm

theorem Imports.ext_keys {m n : Imports} (h : ∀ path, path ∈ m.keys ↔ path ∈ n.keys) : m = n := by
  apply KeyMap.ext_get?
  intro path
  have hpath := h path
  rw [KeyMap.mem_keys_iff, KeyMap.mem_keys_iff] at hpath
  cases hm : m.get? path <;> cases hn : n.get? path <;> simp [hm, hn] at hpath ⊢

theorem Imports.addAll_congr {ps qs : List String} (h : ∀ path, path ∈ ps ↔ path ∈ qs)
    (imports : Imports) : imports.addAll ps = imports.addAll qs := by
  apply Imports.ext_keys
  intro path
  rw [Imports.mem_keys_addAll, Imports.mem_keys_addAll, h]

variable {α β : Type} {m : Importing α} {a : α} {b : β} {ps qs : List String} {sdkCrate : String}

/-- Gives `a` and imports the paths, whatever has been imported before. -/
def Writes (m : Importing α) (a : α) (paths : List String) : Prop :=
  ∀ imports : Imports, m.run imports = (a, imports.addAll paths)

theorem writes_pure (a : α) : Writes (pure a) a [] := fun _ => rfl

theorem writes_bind {f : α → Importing β} (hm : Writes m a ps) (hf : Writes (f a) b qs) :
    Writes (m >>= f) b (ps ++ qs) := by
  intro imports
  have h : (m >>= f).run imports = (f (m.run imports).1).run (m.run imports).2 := rfl
  rw [h, hm imports, hf, Imports.addAll_append]

theorem writes_map (f : α → β) (hm : Writes m a ps) : Writes (f <$> m) (f a) ps := by
  intro imports
  have h : (f <$> m).run imports = (f (m.run imports).1, (m.run imports).2) := rfl
  rw [h, hm imports]

theorem writes_mapM {f : α → Importing β} {g : α → β} {paths : α → List String} {xs : List α}
    (h : ∀ x ∈ xs, Writes (f x) (g x) (paths x)) :
    Writes (xs.mapM f) (xs.map g) (xs.flatMap paths) := by
  induction xs with
  | nil => exact writes_pure []
  | cons x xs ih =>
    obtain ⟨hx, hxs⟩ := List.forall_mem_cons.mp h
    rw [List.mapM_cons, List.map_cons, List.flatMap_cons]
    exact writes_bind hx (writes_map (g x :: ·) (ih hxs))

theorem writes_sdkText (t : SdkType) : Writes (sdkText sdkCrate t) t.name [t.importPath sdkCrate] :=
  fun _ => rfl

theorem writes_primitiveText (p : Primitive) : Writes (primitiveText p) p.text p.paths := by
  cases p <;> exact fun _ => rfl

theorem writes_shapeText (inSet : Bool) (shape : Shape) :
    Writes (shapeText sdkCrate inSet shape) (shape.text inSet) (shape.paths sdkCrate) := by
  induction shape generalizing inSet with
  | primitive p => exact writes_primitiveText p
  | sdk t => exact writes_sdkText t
  | set nullable element ih => exact writes_map (fun text => "Vec<" ++ text ++ ">") (ih true)
  | generated className => exact writes_pure _
  | attributeList => exact fun _ => rfl
  | any => exact fun _ => rfl

theorem writes_typeText (t : OutputType) :
    Writes (typeText sdkCrate t) t.text (t.shape.paths sdkCrate) :=
  writes_map (fun text => if t.nullable then "Option<" ++ text ++ ">" else text)
    (writes_shapeText false t.shape)

def FieldText.ofField (f : OutputField) : FieldText :=
  ⟨Identifier.ofName f.name, f.type.text, markingText f⟩

def fieldPaths (sdkCrate : String) (fields : List OutputField) : List String :=
  fields.flatMap (·.type.shape.paths sdkCrate)

theorem writes_fields (sdkCrate : String) (fields : List OutputField) :
    Writes (fields.mapM (fieldText sdkCrate)) (fields.map FieldText.ofField)
      (fieldPaths sdkCrate fields) :=
  writes_mapM fun f _ =>
    writes_map (FieldText.mk (Identifier.ofName f.name) · (markingText f)) (writes_typeText f.type)

def carriersBody (cs : List CarrierClass) : List String :=
  customFieldsTrait SdkType.typeReference.name ++
    (cs.map fun c => carrierLines SdkType.typeReference.name SdkType.customFields.name c
      (c.record.fields.map FieldText.ofField)).flatten

def carriersPaths (sdkCrate : String) (cs : List CarrierClass) : List String :=
  [SdkType.typeReference, SdkType.customFields].map (·.importPath sdkCrate) ++
    cs.flatMap fun c => fieldPaths sdkCrate c.record.fields

theorem writes_customFieldsLines (cs : List CarrierClass) :
    Writes (customFieldsLines sdkCrate cs) (carriersBody cs) (carriersPaths sdkCrate cs) := by
  have hclass (c : CarrierClass) (_ : c ∈ cs) :=
    writes_map (carrierLines SdkType.typeReference.name SdkType.customFields.name c)
      (writes_fields sdkCrate c.record.fields)
  have hbody := writes_map
    (fun classes => customFieldsTrait SdkType.typeReference.name ++ List.flatten classes)
    (writes_mapM hclass)
  change Writes _ _ ([_] ++ ([_] ++ _))
  exact writes_bind (writes_sdkText .typeReference)
    (writes_bind (writes_sdkText .customFields) hbody)

def attributesPart (cs : List AttributesClass) (c : AttributesClass) : List String :=
  attributesLines (!(withoutEquality (cs.map (·.struct))).contains c.struct.name) c
    (c.struct.fields.map FieldText.ofField)

def attributesBody (cs : List AttributesClass) : List String :=
  variantAttributesTrait ++ fromAttributesFunction SdkType.rawAttribute.name ++
    (cs.map (attributesPart cs)).flatten ++ anyAttributesEnum cs ++
    anyAttributesImpl SdkType.rawAttribute.name cs

def attributesPaths (sdkCrate : String) (cs : List AttributesClass) : List String :=
  [SdkType.rawAttribute.importPath sdkCrate] ++
    cs.flatMap fun c => fieldPaths sdkCrate c.struct.fields

theorem writes_variantAttributesLines (cs : List AttributesClass) :
    Writes (variantAttributesLines sdkCrate cs) (attributesBody cs)
      (attributesPaths sdkCrate cs) := by
  have hclass (c : AttributesClass) (_ : c ∈ cs) :=
    writes_map (attributesLines (!(withoutEquality (cs.map (·.struct))).contains c.struct.name) c)
      (writes_fields sdkCrate c.struct.fields)
  exact writes_bind (writes_sdkText .rawAttribute)
    (writes_map (fun classes => variantAttributesTrait ++
        fromAttributesFunction SdkType.rawAttribute.name ++ List.flatten classes ++
        anyAttributesEnum cs ++ anyAttributesImpl SdkType.rawAttribute.name cs)
      (writes_mapM hclass))

end Source

end SchemaProjection
