import SchemaProjection.Proofs.Mapping
import SchemaProjection.Proofs.Source.Imports

namespace SchemaProjection

namespace SdkType

def all : List SdkType :=
  [localizedString, typedMoney, reference, fieldEnumValue, fieldLocalizedEnumValue,
   attributeEnumValue, attributeLocalizedEnumValue, rawAttribute, customFields] ++
  AttributeReference.all.map (·.sdk)

theorem mem_all_of_fieldReference (kind : FieldReference) : kind.sdk ∈ all := by
  cases kind <;> decide

theorem mem_all_of_attributeReference (kind : AttributeReference) : kind.sdk ∈ all := by
  cases kind <;> decide

end SdkType

theorem FieldType.mem_all_of_leaf {t : FieldType} {x : SdkType} (h : t.shape.leaf = .sdk x) :
    x ∈ SdkType.all := by
  induction t with
  | set element ih => exact ih h
  | reference kind =>
    cases h
    exact SdkType.mem_all_of_fieldReference kind
  | localizedString | enum | localizedEnum | money =>
    cases h
    decide
  | _ => cases h

theorem AttributeType.mem_all_of_leaf {s : Schema} {c : Configuration} {required : Bool}
    {t : AttributeType} {shape : Shape} {x : SdkType} (h : t.shape s c required = .ok shape)
    (hx : shape.leaf = .sdk x) : x ∈ SdkType.all := by
  induction t generalizing shape with
  | set element ih =>
    obtain ⟨inner, hi, rfl⟩ := Outcome.map_eq_ok_iff.mp h
    exact ih hi hx
  | nested id =>
    obtain ⟨_, _, -, -, rfl⟩ | ⟨-, rfl⟩ := Schema.nestedShape_eq_ok_iff.mp h
    · cases hx
    · cases hx
  | reference kind =>
    cases h
    cases hx
    exact SdkType.mem_all_of_attributeReference kind
  | localizedText | enum | localizedEnum | money =>
    cases h
    cases hx
    decide
  | _ =>
    cases h
    cases hx

namespace Source

variable {sdkCrate path name : String} {paths : List String} {shape : Shape}

def lastSegment (path : String) : String :=
  .ofList (path.toList.reverse.takeWhile (· != ':')).reverse

theorem lastSegment_eq_of_toList (xs : List Char) (h : path.toList = xs ++ ':' :: name.toList)
    (hn : ':' ∉ name.toList) : lastSegment path = name := by
  have hall : ∀ x ∈ name.toList.reverse, (x != ':') = true := by
    intro x hx
    rw [List.mem_reverse] at hx
    exact bne_iff_ne.mpr fun he => hn (he ▸ hx)
  rw [lastSegment, h, List.reverse_append, List.reverse_cons, List.append_assoc,
    List.singleton_append, List.takeWhile_append_of_pos hall,
    List.takeWhile_cons_of_neg (by decide), List.append_nil, List.reverse_reverse,
    String.ofList_toList]

def importTable (sdkCrate : String) : List (String × String) :=
  [("DateTime", "chrono::DateTime"), ("NaiveDate", "chrono::NaiveDate"),
   ("NaiveTime", "chrono::NaiveTime"), ("Utc", "chrono::Utc"), ("Value", "serde_json::Value")] ++
  SdkType.all.map fun t => (t.name, t.importPath sdkCrate)

def importNames : List String :=
  ["DateTime", "NaiveDate", "NaiveTime", "Utc", "Value"] ++ SdkType.all.map (·.name)

theorem map_fst_importTable (sdkCrate : String) :
    (importTable sdkCrate).map (·.1) = importNames := by
  rw [importTable, List.map_append, List.map_map]
  rfl

theorem nodup_importNames : importNames.Nodup := by
  decide +kernel

theorem suffix_of_mem_importTable :
    ∀ e ∈ importTable sdkCrate, ':' ∉ e.1.toList ∧ (':' :: e.1.toList) <:+ e.2.toList := by
  have hcolon : ∀ t ∈ SdkType.all, ':' ∉ t.name.toList := by
    decide +kernel
  rw [importTable, List.forall_mem_append]
  refine ⟨by decide +kernel, ?_⟩
  rw [List.forall_mem_map]
  intro t ht
  exact ⟨hcolon t ht, sdkCrate.toList ++ "::".toList ++ t.module.toList ++ [':'],
    by simp [SdkType.importPath, SdkType.path, String.toList_append]⟩

theorem lastSegment_of_mem_importTable :
    ∀ e ∈ importTable sdkCrate, lastSegment e.2 = e.1 := by
  intro e he
  obtain ⟨hcolon, xs, hxs⟩ := suffix_of_mem_importTable e he
  exact lastSegment_eq_of_toList xs hxs.symm hcolon

theorem importPath_mem_importTable (sdkCrate : String) {t : SdkType} (h : t ∈ SdkType.all) :
    t.importPath sdkCrate ∈ (importTable sdkCrate).map (·.2) := by
  rw [importTable, List.map_append, List.map_map]
  exact List.mem_append_right _ (List.mem_map_of_mem h)

theorem paths_subset_importTable (h : ∀ t, shape.leaf = .sdk t → t ∈ SdkType.all) :
    shape.paths sdkCrate ⊆ (importTable sdkCrate).map (·.2) := by
  induction shape with
  | primitive p => cases p <;> simp [Shape.paths, Primitive.paths, importTable]
  | sdk t => exact List.cons_subset.mpr ⟨importPath_mem_importTable _ (h t rfl), List.nil_subset _⟩
  | set nullable element ih => exact ih h
  | generated className => exact List.nil_subset _
  | attributeList =>
    exact List.cons_subset.mpr ⟨importPath_mem_importTable _ (by decide), List.nil_subset _⟩
  | any => simp [Shape.paths, importTable]

theorem lastSegment_mem_importNames (h : path ∈ (importTable sdkCrate).map (·.2)) :
    lastSegment path ∈ importNames := by
  obtain ⟨e, he, rfl⟩ := List.mem_map.mp h
  rw [lastSegment_of_mem_importTable e he, ← map_fst_importTable sdkCrate]
  exact List.mem_map_of_mem he

theorem lastSegment_inj {p q : String} (hp : p ∈ (importTable sdkCrate).map (·.2))
    (hq : q ∈ (importTable sdkCrate).map (·.2)) (h : lastSegment p = lastSegment q) : p = q := by
  have hinj := nodup_importNames
  rw [← map_fst_importTable sdkCrate] at hinj
  obtain ⟨d, hd, rfl⟩ := List.mem_map.mp hp
  obtain ⟨e, he, rfl⟩ := List.mem_map.mp hq
  rw [lastSegment_of_mem_importTable d hd, lastSegment_of_mem_importTable e he] at h
  rw [List.inj_on_of_nodup_map hinj hd he h]

theorem nodup_importPaths (sdkCrate : String) : ((importTable sdkCrate).map (·.2)).Nodup := by
  have hsegments : ((importTable sdkCrate).map (·.2)).map lastSegment = importNames := by
    rw [List.map_map, ← map_fst_importTable sdkCrate]
    exact List.map_congr_left lastSegment_of_mem_importTable
  apply List.Nodup.of_map lastSegment
  rw [hsegments]
  exact nodup_importNames

theorem nodup_lastSegments (hn : paths.Nodup) (h : paths ⊆ (importTable sdkCrate).map (·.2)) :
    (paths.map lastSegment).Nodup :=
  hn.map_on fun _ hp _ hq => lastSegment_inj (h hp) (h hq)

end Source

end SchemaProjection
