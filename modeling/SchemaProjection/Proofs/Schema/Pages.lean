import SchemaProjection.Proofs.Schema.Sections

namespace SchemaProjection

namespace Json

theorem lookup_lastWinsMembers (members : List (String × Json)) (name : String) :
    (lastWinsMembers members).lookup name = (members.reverse.lookup name).map lastWins := by
  induction members with
  | nil => rfl
  | cons e members ih =>
    obtain ⟨n, v⟩ := e
    have hany : members.any (·.1 == n) = true ↔ members.reverse.lookup n ≠ none := by
      rw [ne_eq, lookup_eq_none_iff_notMem, not_not, List.map_reverse, List.mem_reverse,
        List.any_eq_true, List.mem_map]
      simp only [beq_iff_eq]
    rw [lastWinsMembers, List.reverse_cons, List.lookup_append]
    split
    next hlast =>
      -- a later member of this name counts
      rw [ih, KeyMap.lookup_cons_eq_ite]
      split
      next heq =>
        subst heq
        obtain ⟨w, hw⟩ := Option.ne_none_iff_exists'.mp (hany.mp hlast)
        rw [hw]
        rfl
      next => rw [List.lookup_nil, Option.or_none]
    next hlast =>
      -- no later member is in the way of this one
      rw [KeyMap.lookup_cons_eq_ite, KeyMap.lookup_cons_eq_ite, ih]
      split
      next heq =>
        subst heq
        rw [not_not.mp (mt hany.mpr hlast)]
        rfl
      next => rw [List.lookup_nil, Option.or_none]

end Json

namespace Pages

open Json Sections

variable {α : Type} {item? : Json → Option α} {items types productTypes : List Json}
  {members : List (String × Json)} {name t d : String} {v : Json}

/-- The value is the array of the items, or a page with this array as its results. A page may have
any other members, but repeats none. -/
inductive Gives (items : List Json) : Json → Prop
  | array : Gives items (.array items)
  | page {members : List (String × Json)} (hnames : (members.map (·.1)).Nodup)
    (hresults : ("results", .array items) ∈ members) : Gives items (.object members)

def HoldsItems (t : String) (items : List Json) : Prop :=
  ∃ v, Json.read t = .ok v ∧ Gives items v

/-- The section of a snapshot object that gives the items; of several the last counts. Without a
section there are no items. -/
def HasSection (members : List (String × Json)) (name : String) (items : List Json) : Prop :=
  (members.reverse.lookup name).elim (items = []) (Gives items)

/-- The text holds a snapshot object with these items in its sections. -/
def HoldsSections (d : String) (types productTypes : List Json) : Prop :=
  ∃ members, Json.read d = .ok (.object members) ∧ HasSection members "types" types ∧
    HasSection members "productTypes" productTypes

/-- The outcome of reading items: an entity for each of them, in order, unless there is one that is
no entity. -/
structure ItemByItem (item? : Json → Option α) (items : List Json)
    (outcome : Except ParseError (List α)) : Prop where
  ok_iff : ∀ entities, outcome = .ok entities ↔
    List.Forall₂ (fun j entity => item? j = some entity) items entities
  shape_iff : outcome = .error .shape ↔ ∃ j ∈ items, item? j = none

theorem itemByItem_ofShape (item? : Json → Option α) (items : List Json) :
    ItemByItem item? items (ofShape (items.mapM item?)) where
  ok_iff entities := by rw [ofShape_eq_ok_iff, Outcome.mapM_eq_some_iff]
  shape_iff := by rw [ofShape_eq_shape_iff, Outcome.mapM_eq_none_iff]

theorem section?_eq_mapM (h : Gives items v) : section? item? v = items.mapM item? := by
  cases h with
  | array => rfl
  | page hnames hresults =>
    rw [section?, uniqueMember?_of_mem hnames hresults]
    rfl

theorem parseWith_eq_mapM (ht : Json.read t = .ok v) (h : Gives items v) :
    parseWith (section? item?) t = ofShape (items.mapM item?) := by
  rw [parseWith_of_read ht, section?_eq_mapM h]

theorem gives_lastWins (h : Gives items v) : Gives (items.map lastWins) v.lastWins := by
  cases h with
  | array =>
    rw [lastWins_array]
    exact .array
  | @page members hnames hresults =>
    rw [lastWins, lastWinsMembers_eq_map hnames]
    apply Gives.page
    · rw [List.map_map]
      exact hnames
    · rw [← lastWins_array]
      exact List.mem_map.mpr ⟨_, hresults, rfl⟩

theorem orDefault_eq_mapM (h : HasSection members name items) :
    orDefault [] (section? item?) ((lastWinsMembers members).lookup name) =
      (items.map lastWins).mapM item? := by
  rw [lookup_lastWinsMembers]
  rw [HasSection] at h
  cases hlookup : members.reverse.lookup name with
  | none =>
    rw [hlookup] at h
    obtain rfl : items = [] := h
    rfl
  | some v =>
    rw [hlookup] at h
    exact section?_eq_mapM (gives_lastWins h)

theorem parse_eq_mapM (h : HoldsSections d types productTypes) :
    Snapshot.parse d =
      ofShape (((types.map lastWins).mapM CustomFieldType.ofJson?).bind fun ts =>
        ((productTypes.map lastWins).mapM ProductType.ofJson?).map fun ps => ⟨ts, ps⟩) := by
  obtain ⟨members, hread, htypes, hproductTypes⟩ := h
  have hobject : ReadsAsObject d (lastWinsMembers members) := by
    refine ⟨_, hread, ?_⟩
    rw [lastWins]
  rw [parse_of_readsAsObject hobject, orDefault_eq_mapM htypes, orDefault_eq_mapM hproductTypes]

theorem parse_eq_ok_iff (h : HoldsSections d types productTypes) {s : Snapshot} :
    Snapshot.parse d = .ok s ↔
      List.Forall₂ (fun j t => CustomFieldType.ofJson? j.lastWins = some t) types s.types ∧
        List.Forall₂ (fun j p => ProductType.ofJson? j.lastWins = some p) productTypes
          s.productTypes := by
  obtain ⟨ts, ps⟩ := s
  rw [parse_eq_mapM h, ofShape_eq_ok_iff]
  simp only [Option.bind_eq_some_iff, Option.map_eq_some_iff, Outcome.mapM_eq_some_iff,
    List.forall₂_map_left_iff, Snapshot.mk.injEq]
  constructor
  · rintro ⟨_, hts, _, hps, rfl, rfl⟩
    exact ⟨hts, hps⟩
  · rintro ⟨hts, hps⟩
    exact ⟨ts, hts, ps, hps, rfl, rfl⟩

theorem parse_eq_shape_iff (h : HoldsSections d types productTypes) :
    Snapshot.parse d = .error .shape ↔
      (∃ j ∈ types, CustomFieldType.ofJson? j.lastWins = none) ∨
        ∃ j ∈ productTypes, ProductType.ofJson? j.lastWins = none := by
  have hmap {α : Type} (item? : Json → Option α) (items : List Json) :
      (items.map lastWins).mapM item? = none ↔ ∃ j ∈ items, item? j.lastWins = none := by
    simp [Outcome.mapM_eq_none_iff]
  rw [parse_eq_mapM h, ofShape_eq_shape_iff, ← hmap, ← hmap]
  cases (types.map lastWins).mapM CustomFieldType.ofJson? <;>
    cases (productTypes.map lastWins).mapM ProductType.ofJson? <;> simp

/-- Once its text has been read, a page counts as much as its array, in a text of its own and in
either section of a snapshot. In a snapshot the items are read without the members that are
repeated later. Texts that are nested too deep are not read at all. -/
theorem outcome_by_items (items types productTypes : List Json) :
    (∀ t, HoldsItems t items →
      ItemByItem CustomFieldType.ofJson? items (CustomFieldType.parseAll t) ∧
      ItemByItem ProductType.ofJson? items (ProductType.parseAll t)) ∧
    (∀ t t', HoldsItems t items → HoldsItems t' items →
      CustomFieldType.parseAll t = CustomFieldType.parseAll t' ∧
      ProductType.parseAll t = ProductType.parseAll t') ∧
    (∀ d, HoldsSections d types productTypes →
      (∀ s, Snapshot.parse d = .ok s ↔
        List.Forall₂ (fun j t => CustomFieldType.ofJson? j.lastWins = some t) types s.types ∧
        List.Forall₂ (fun j p => ProductType.ofJson? j.lastWins = some p) productTypes
          s.productTypes) ∧
      (Snapshot.parse d = .error .shape ↔
        (∃ j ∈ types, CustomFieldType.ofJson? j.lastWins = none) ∨
        ∃ j ∈ productTypes, ProductType.ofJson? j.lastWins = none)) ∧
    (∀ d d', HoldsSections d types productTypes → HoldsSections d' types productTypes →
      Snapshot.parse d = Snapshot.parse d') ∧
    ∀ t v, Json.read t = .ok v → v.depth ≤ Expecting.deepest := by
  refine ⟨?_, ?_, fun d h => ⟨fun s => parse_eq_ok_iff h, parse_eq_shape_iff h⟩,
    fun d d' h h' => ?_, fun t v => depth_le_of_read⟩
  · rintro t ⟨v, hread, hv⟩
    rw [CustomFieldType.parseAll, ProductType.parseAll, parseWith_eq_mapM hread hv,
      parseWith_eq_mapM hread hv]
    exact ⟨itemByItem_ofShape _ items, itemByItem_ofShape _ items⟩
  · rintro t t' ⟨v, hread, hv⟩ ⟨v', hread', hv'⟩
    rw [CustomFieldType.parseAll, ProductType.parseAll, parseWith_eq_mapM hread hv,
      parseWith_eq_mapM hread hv, CustomFieldType.parseAll, ProductType.parseAll,
      parseWith_eq_mapM hread' hv', parseWith_eq_mapM hread' hv']
    exact ⟨rfl, rfl⟩
  · rw [parse_eq_mapM h, parse_eq_mapM h']

def typeItem : Json :=
  .object [("id", .string "t"), ("key", .string "k")]

def pageText : String :=
  "\x7b\"more\":true,\"results\":[\x7b\"id\":\"t\",\"key\":\"k\"\x7d]\x7d"

def pagedSectionText : String :=
  "\x7b\"types\":\x7b\"results\":[\x7b\"id\":\"t\",\"key\":\"k\"\x7d]\x7d\x7d"

def arraySectionsText : String :=
  "\x7b\"productTypes\":[],\"types\":[\x7b\"id\":\"t\",\"key\":\"k\"\x7d]\x7d"

set_option maxRecDepth 10000 in
theorem read_pages :
    Json.read pageText =
      .ok (.object [("more", .bool true), ("results", .array [typeItem])]) ∧
    Json.read pagedSectionText =
      .ok (.object [("types", .object [("results", .array [typeItem])])]) ∧
    Json.read arraySectionsText =
      .ok (.object [("productTypes", .array []), ("types", .array [typeItem])]) := by
  refine ⟨?_, ?_, ?_⟩
  · rw [show pageText = .ofList _ from rfl, Json.read_ofList]
    with_unfolding_all rfl
  · rw [show pagedSectionText = .ofList _ from rfl, Json.read_ofList]
    with_unfolding_all rfl
  · rw [show arraySectionsText = .ofList _ from rfl, Json.read_ofList]
    with_unfolding_all rfl

theorem outcome_by_items_pages :
    CustomFieldType.parseAll pageText = .ok [{ id := "t", key := "k" }] ∧
    Snapshot.parse pagedSectionText = Snapshot.parse arraySectionsText ∧
    Snapshot.parse namelessSectionText = .error .shape := by
  obtain ⟨hpage, hpaged, harrays⟩ := read_pages
  obtain ⟨-, -, -, hnameless⟩ := read_texts
  obtain ⟨hitems, -, -, hsections, -⟩ := outcome_by_items [typeItem] [typeItem] []
  obtain ⟨-, -, hoffender, -⟩ := outcome_by_items [] [] [.array [.string "p", .null]]
  refine ⟨?_, ?_, ?_⟩
  · have hholds : HoldsItems pageText [typeItem] :=
      ⟨_, hpage, .page (by decide) (.tail _ List.mem_cons_self)⟩
    exact ((hitems pageText hholds).1.ok_iff _).mpr (.cons rfl .nil)
  · exact hsections _ _ ⟨_, hpaged, .page (by decide) List.mem_cons_self, rfl⟩
      ⟨_, harrays, .array, .array⟩
  · exact (hoffender _ ⟨_, hnameless, rfl, .array⟩).2.mpr (.inr ⟨_, List.mem_cons_self, rfl⟩)

/-- An array of one type, with a member that types do not have. Both together are nested as deep as
a text may be. -/
def deepChars : List Char :=
  "[\x7b\"id\":\"t\",\"key\":\"k\",\"note\":".toList ++ List.replicate 125 '[' ++
    List.replicate 125 ']' ++ "\x7d]".toList

theorem page_of_deepChars_refused :
    CustomFieldType.parseAll (.ofList deepChars) = .ok [{ id := "t", key := "k" }] ∧
    CustomFieldType.parseAll (.ofList ("\x7b\"results\":".toList ++ deepChars ++ ['\x7d'])) =
      .error (.text .malformed) := by
  refine ⟨?_, ?_⟩
  · rw [CustomFieldType.parseAll, parseWith, Json.readValue, String.toList_ofList]
    decide +kernel
  · rw [CustomFieldType.parseAll, parseWith, Json.readValue, String.toList_ofList]
    decide +kernel

end Pages

end SchemaProjection
