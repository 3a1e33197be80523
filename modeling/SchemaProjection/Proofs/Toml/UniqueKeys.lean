import Mathlib.Data.List.Nodup
import SchemaProjection.Toml.Reader

namespace SchemaProjection.Toml

inductive IsKeyed : Toml → Prop
  | string (s : String) : IsKeyed (.string s)
  | bool (b : Bool) : IsKeyed (.bool b)
  | number (text : String) : IsKeyed (.number text)
  | dateTime (text : String) : IsKeyed (.dateTime text)
  | array {items : List Toml} (h : ∀ v ∈ items, IsKeyed v) : IsKeyed (.array items)
  | table {entries : List (String × Toml)} (hkeys : (entries.map (·.1)).Nodup)
    (h : ∀ e ∈ entries, IsKeyed e.2) : IsKeyed (.table entries)

theorem isKeyed_table_iff {entries : List (String × Toml)} :
    IsKeyed (.table entries) ↔ (entries.map (·.1)).Nodup ∧ ∀ e ∈ entries, e.2.IsKeyed := by
  constructor
  · intro h
    cases h with
    | table hkeys hvalues => exact ⟨hkeys, hvalues⟩
  · rintro ⟨hkeys, hvalues⟩
    exact .table hkeys hvalues

mutual

inductive Node.IsKeyed : Node → Prop
  | value {v : Toml} (h : v.IsKeyed) : Node.IsKeyed (.value v)
  | table {origin : Origin} {es : Entries} (h : Entries.AreKeyed es) :
    Node.IsKeyed (.table origin es)
  | tables {earlier : List Entries} {last : Entries} (hearlier : ∀ es ∈ earlier, Entries.AreKeyed es)
    (hlast : Entries.AreKeyed last) : Node.IsKeyed (.tables earlier last)

inductive Entries.AreKeyed : Entries → Prop
  | nil : Entries.AreKeyed []
  | cons {k : String} {n : Node} {es : Entries} (hk : k ∉ es.map (·.1)) (hn : n.IsKeyed)
    (hes : Entries.AreKeyed es) : Entries.AreKeyed ((k, n) :: es)

end

variable {es es' : Entries} {k : String} {v : Toml} {r r' : Reader} {t : Token} {p : Place}
  {pieces : List KeyPiece}

section Values

theorem map_fst_entriesToToml (es : Entries) : (entriesToToml es).map (·.1) = es.map (·.1) := by
  induction es with
  | nil => rfl
  | cons e es ih => rw [entriesToToml, List.map_cons, ih, List.map_cons]

theorem nodup_of_areKeyed (h : Entries.AreKeyed es) : (es.map (·.1)).Nodup := by
  induction es with
  | nil => exact .nil
  | cons e es ih =>
    cases h with
    | cons hk hn hes => exact List.nodup_cons.mpr ⟨hk, ih hes⟩

theorem isKeyed_tablesToToml {ts : List Entries}
    (h : ∀ es ∈ ts, IsKeyed (.table (entriesToToml es))) : ∀ v ∈ tablesToToml ts, v.IsKeyed := by
  induction ts with
  | nil => simp [tablesToToml]
  | cons es ts ih =>
    obtain ⟨hes, hts⟩ := List.forall_mem_cons.mp h
    exact List.forall_mem_cons.mpr ⟨hes, ih hts⟩

mutual

theorem isKeyed_toToml {n : Node} (h : n.IsKeyed) : n.toToml.IsKeyed := by
  cases h with
  | value hv => exact hv
  | table hes =>
    exact .table (map_fst_entriesToToml _ ▸ nodup_of_areKeyed hes) (isKeyed_entriesToToml hes)
  | tables hearlier hlast =>
    have hkeys {es : Entries} (hes : Entries.AreKeyed es) :
        ((entriesToToml es).map (·.1)).Nodup := map_fst_entriesToToml _ ▸ nodup_of_areKeyed hes
    refine .array (List.forall_mem_append.mpr ⟨isKeyed_tablesToToml fun es hes => ?_, ?_⟩)
    · exact .table (hkeys (hearlier es hes)) (isKeyed_entriesToToml (hearlier es hes))
    · exact List.forall_mem_singleton.mpr (.table (hkeys hlast) (isKeyed_entriesToToml hlast))

theorem isKeyed_entriesToToml {es : Entries} (h : Entries.AreKeyed es) :
    ∀ e ∈ entriesToToml es, e.2.IsKeyed := by
  cases h with
  | nil => exact List.forall_mem_nil _
  | cons hk hn hes =>
    exact List.forall_mem_cons.mpr ⟨isKeyed_toToml hn, isKeyed_entriesToToml hes⟩

end

theorem isKeyed_table_entriesToToml (h : Entries.AreKeyed es) :
    IsKeyed (.table (entriesToToml es)) :=
  .table (map_fst_entriesToToml _ ▸ nodup_of_areKeyed h) (isKeyed_entriesToToml h)

theorem isKeyed_of_read {cs : List Char} (h : Scalar.read? cs = some v) : v.IsKeyed := by
  rw [Scalar.read?] at h
  split at h
  · cases h; exact .bool true
  · split at h
    · cases h; exact .bool false
    · split at h
      · cases h; exact .number _
      · obtain ⟨text, -, rfl⟩ := Option.map_eq_some_iff.mp h
        exact .dateTime text

end Values

namespace Entries

variable {f : Entries → Option Entries} {g : Option Node → Option Node}

def KeepsKeyed (f : Entries → Option Entries) : Prop :=
  ∀ es es', AreKeyed es → f es = some es' → AreKeyed es'

def KeepsNodeKeyed (g : Option Node → Option Node) : Prop :=
  ∀ old new, (∀ n ∈ old, n.IsKeyed) → g old = some new → new.IsKeyed

theorem mem_keys_of_alter? (h : alter? k g es = some es') :
    ∀ x ∈ es'.map (·.1), x = k ∨ x ∈ es.map (·.1) := by
  induction es generalizing es' with
  | nil =>
    obtain ⟨n, -, rfl⟩ := Option.map_eq_some_iff.mp h
    simp
  | cons e es ih =>
    obtain ⟨name, old⟩ := e
    rw [alter?] at h
    split at h
    next hk =>
      obtain ⟨n, -, rfl⟩ := Option.map_eq_some_iff.mp h
      exact fun x hx => (List.mem_cons.mp hx).imp_right (List.mem_cons_of_mem _)
    next hk =>
      obtain ⟨rest, hrest, rfl⟩ := Option.map_eq_some_iff.mp h
      intro x hx
      obtain rfl | hx := List.mem_cons.mp hx
      · exact .inr List.mem_cons_self
      · exact (ih hrest x hx).imp_right (List.mem_cons_of_mem _)

theorem keepsKeyed_alter? (hg : KeepsNodeKeyed g) (k : String) : KeepsKeyed (alter? k g) := by
  intro es es' hes h
  induction es generalizing es' with
  | nil =>
    obtain ⟨n, hn, rfl⟩ := Option.map_eq_some_iff.mp h
    exact .cons List.not_mem_nil (hg none n (by simp) hn) .nil
  | cons e es ih =>
    obtain ⟨name, old⟩ := e
    cases hes with
    | cons hname hold hes =>
      rw [alter?] at h
      split at h
      next hk =>
        obtain ⟨n, hn, rfl⟩ := Option.map_eq_some_iff.mp h
        rw [beq_iff_eq.mp hk]
        refine .cons hname (hg (some old) n ?_ hn) hes
        rintro _ ⟨⟩
        exact hold
      next hk =>
        obtain ⟨rest, hrest, rfl⟩ := Option.map_eq_some_iff.mp h
        refine .cons (fun hm => ?_) hold (ih _ hes hrest)
        obtain rfl | hm := mem_keys_of_alter? hrest _ hm
        · simp at hk
        · exact hname hm

theorem keepsNodeKeyed_inTable (hf : KeepsKeyed f) : KeepsNodeKeyed (inTable f) := by
  intro old new hold h
  cases old with
  | none =>
    obtain ⟨es, hes, rfl⟩ := Option.map_eq_some_iff.mp h
    exact .table (hf _ _ .nil hes)
  | some n =>
    have hn := hold n rfl
    cases n with
    | value v => cases h
    | table origin es =>
      obtain ⟨es', hes, rfl⟩ := Option.map_eq_some_iff.mp h
      cases hn with
      | table hkeyed => exact .table (hf _ _ hkeyed hes)
    | tables earlier last =>
      obtain ⟨last', hlast, rfl⟩ := Option.map_eq_some_iff.mp h
      cases hn with
      | tables hearlier hkeyed => exact .tables hearlier (hf _ _ hkeyed hlast)

theorem keepsKeyed_within? (hf : KeepsKeyed f) (ks : List String) : KeepsKeyed (within? f ks) := by
  induction ks with
  | nil => exact hf
  | cons k ks ih => exact keepsKeyed_alter? (keepsNodeKeyed_inTable ih) k

theorem keepsNodeKeyed_define : KeepsNodeKeyed define := by
  intro old new hold h
  rw [define.eq_def] at h
  split at h
  · cases h; exact .table .nil
  · cases h
    cases hold _ rfl with
    | table hes => exact .table hes
  · cases h

theorem keepsNodeKeyed_defineNext : KeepsNodeKeyed defineNext := by
  intro old new hold h
  rw [defineNext.eq_def] at h
  split at h
  · cases h; exact .tables (List.forall_mem_nil _) .nil
  · cases h
    cases hold _ rfl with
    | tables hearlier hlast =>
      exact .tables (List.forall_mem_append.mpr
        ⟨hearlier, List.forall_mem_singleton.mpr hlast⟩) .nil
  · cases h

theorem keepsKeyed_addTable? (repeated : Bool) (key : KeyPath) :
    KeepsKeyed (addTable? repeated key) := by
  apply keepsKeyed_within?
  apply keepsKeyed_alter?
  cases repeated with
  | true => exact keepsNodeKeyed_defineNext
  | false => exact keepsNodeKeyed_define

theorem keepsNodeKeyed_onDottedWay (hf : KeepsKeyed f) (isLast : Bool) :
    KeepsNodeKeyed (onDottedWay isLast f) := by
  intro old new hold h
  rw [onDottedWay.eq_def] at h
  split at h
  · obtain ⟨es, hes, rfl⟩ := Option.map_eq_some_iff.mp h
    exact .table (hf _ _ .nil hes)
  · obtain ⟨es, hes, rfl⟩ := Option.map_eq_some_iff.mp h
    cases hold _ rfl with
    | table hkeyed => exact .table (hf _ _ hkeyed hes)
  · split at h
    · cases h
    · obtain ⟨es, hes, rfl⟩ := Option.map_eq_some_iff.mp h
      cases hold _ rfl with
      | table hkeyed => exact .table (hf _ _ hkeyed hes)
  · split at h
    · cases h
    · obtain ⟨last, hlast, rfl⟩ := Option.map_eq_some_iff.mp h
      cases hold _ rfl with
      | tables hearlier hkeyed => exact .tables hearlier (hf _ _ hkeyed hlast)
  · cases h

theorem keepsNodeKeyed_setNew (hv : v.IsKeyed) : KeepsNodeKeyed (setNew v) := by
  intro old new _ h
  cases old with
  | none => cases h; exact .value hv
  | some n => cases h

theorem keepsKeyed_add? (hv : v.IsKeyed) (key : KeyPath) : KeepsKeyed (add? key v) := by
  have hbelow (ks : List String) : KeepsKeyed (addBelow? key.name v ks) := by
    induction ks with
    | nil => exact keepsKeyed_alter? (keepsNodeKeyed_setNew hv) key.name
    | cons k ks ih => exact keepsKeyed_alter? (keepsNodeKeyed_onDottedWay ih ks.isEmpty) k
  exact hbelow key.parents

end Entries

open Entries

def Frame.IsKeyed : Frame → Prop
  | .array items => ∀ v ∈ items, v.IsKeyed
  | .table es _ => AreKeyed es

def Place.IsKeyed (p : Place) : Prop :=
  ∀ f ∈ p.frames, f.IsKeyed

/-- So far no array and no inline table that is still open holds a table with a key twice. -/
def Expecting.IsKeyed : Expecting → Prop
  | .value p => p.IsKeyed
  | .words _ _ p => p.IsKeyed
  | .item items p => (Frame.array items).IsKeyed ∧ p.IsKeyed
  | .itemEnd items p => (Frame.array items).IsKeyed ∧ p.IsKeyed
  | .entry es p => AreKeyed es ∧ p.IsKeyed
  | .entryKey es _ p => AreKeyed es ∧ p.IsKeyed
  | .entryEquals es _ p => AreKeyed es ∧ p.IsKeyed
  | .entryEnd es p => AreKeyed es ∧ p.IsKeyed
  | _ => True

namespace Reader

structure IsKeyed (r : Reader) : Prop where
  document : AreKeyed r.document
  expecting : r.expecting.IsKeyed

theorem isKeyed_inside {f : Frame} (hf : f.IsKeyed) (hp : p.IsKeyed) : (p.inside f).IsKeyed :=
  List.forall_mem_cons.mpr ⟨hf, hp⟩

theorem isKeyed_expect {e : Expecting} (hr : r.IsKeyed) (he : e.IsKeyed) : (r.expect e).IsKeyed :=
  ⟨hr.document, he⟩

theorem isKeyed_addPieces? {e : List KeyPiece → Expecting} (hr : r.IsKeyed)
    (h : r.addPieces? pieces t e = some r') (he : ∀ ps, (e ps).IsKeyed) : r'.IsKeyed := by
  obtain ⟨ps, -, rfl⟩ := Option.map_eq_some_iff.mp h
  exact isKeyed_expect hr (he _)

theorem isKeyed_openTable? {repeated : Bool} {key : KeyPath} (hr : r.IsKeyed)
    (h : r.openTable? repeated key = some r') : r'.IsKeyed := by
  obtain ⟨es, hes, rfl⟩ := Option.map_eq_some_iff.mp h
  exact ⟨keepsKeyed_addTable? repeated key _ _ hr.document hes, trivial⟩

theorem isKeyed_place? (hr : r.IsKeyed) (hp : p.IsKeyed) (hv : v.IsKeyed)
    (h : r.place? p v = some r') : r'.IsKeyed := by
  obtain ⟨frames, key⟩ := p
  rw [place?.eq_def] at h
  split at h
  next hframes =>
    obtain ⟨es, hes, rfl⟩ := Option.map_eq_some_iff.mp h
    exact ⟨keepsKeyed_within? (keepsKeyed_add? hv _) r.header _ _ hr.document hes, trivial⟩
  next items fs hframes =>
    subst hframes
    obtain ⟨hitems, hfs⟩ := List.forall_mem_cons.mp hp
    cases h
    exact isKeyed_expect hr ⟨List.forall_mem_cons.mpr ⟨hv, hitems⟩, hfs⟩
  next es key' fs hframes =>
    subst hframes
    obtain ⟨hes, hfs⟩ := List.forall_mem_cons.mp hp
    obtain ⟨es', hadd, rfl⟩ := Option.map_eq_some_iff.mp h
    exact isKeyed_expect hr ⟨keepsKeyed_add? hv key' _ _ hes hadd, hfs⟩

theorem isKeyed_closeArray? {items : List Toml} (hr : r.IsKeyed)
    (he : (Frame.array items).IsKeyed ∧ p.IsKeyed) (h : r.closeArray? p items = some r') :
    r'.IsKeyed :=
  isKeyed_place? hr he.2 (.array fun v hv => he.1 v (List.mem_reverse.mp hv)) h

theorem isKeyed_closeTable? (hr : r.IsKeyed) (he : AreKeyed es ∧ p.IsKeyed)
    (h : r.closeTable? p es = some r') : r'.IsKeyed :=
  isKeyed_place? hr he.2 (isKeyed_table_entriesToToml he.1) h

theorem isKeyed_beginValue? (hr : r.IsKeyed) (hp : p.IsKeyed) (h : r.beginValue? p t = some r') :
    r'.IsKeyed := by
  rw [beginValue?.eq_def] at h
  split at h
  · cases h; exact isKeyed_expect hr hp
  · exact isKeyed_place? hr hp (.string _) h
  · split at h
    · cases h; exact isKeyed_expect hr ⟨List.forall_mem_nil _, hp⟩
    · cases h
  · split at h
    · cases h; exact isKeyed_expect hr ⟨.nil, hp⟩
    · cases h
  · cases h

theorem isKeyed_read? (hr : r.IsKeyed) (h : r.read? t = some r') : r'.IsKeyed := by
  obtain ⟨document, header, expecting⟩ := r
  have he : expecting.IsKeyed := hr.expecting
  -- the cases are the equations of `read?`, in their order
  rw [read?.eq_def] at h
  dsimp only at h
  split at h
  case h_1 => cases h; exact hr
  case h_2 => cases h; exact isKeyed_expect hr trivial
  case h_3 => exact isKeyed_addPieces? hr h fun _ => trivial
  case h_4 => cases h; exact isKeyed_expect hr trivial
  case h_5 => cases h
  case h_6 => cases h; exact isKeyed_expect hr trivial
  case h_7 => exact isKeyed_addPieces? hr h fun _ => trivial
  case h_8 =>
    obtain ⟨key, -, h⟩ := Option.bind_eq_some_iff.mp h
    exact isKeyed_openTable? hr h
  case h_9 =>
    obtain ⟨key, -, rfl⟩ := Option.map_eq_some_iff.mp h
    exact isKeyed_expect hr trivial
  case h_10 => exact isKeyed_addPieces? hr h fun _ => trivial
  case h_11 => exact isKeyed_openTable? hr h
  case h_12 => cases h
  case h_13 =>
    obtain ⟨key, -, rfl⟩ := Option.map_eq_some_iff.mp h
    exact isKeyed_expect hr (List.forall_mem_nil _)
  case h_14 => exact isKeyed_addPieces? hr h fun _ => trivial
  case h_15 => split at h <;> cases h; exact hr
  case h_16 => exact isKeyed_beginValue? hr he h
  case h_17 => cases h
  case h_18 => cases h; exact hr
  case h_19 => exact isKeyed_closeArray? hr he h
  case h_20 => exact isKeyed_beginValue? hr (isKeyed_inside he.1 he.2) h
  case h_21 => cases h; exact hr
  case h_22 => cases h; exact isKeyed_expect hr he
  case h_23 => exact isKeyed_closeArray? hr he h
  case h_24 => cases h
  case h_25 => cases h; exact hr
  case h_26 => exact isKeyed_closeTable? hr he h
  case h_27 => exact isKeyed_addPieces? hr h fun _ => he
  case h_28 =>
    obtain ⟨key, -, rfl⟩ := Option.map_eq_some_iff.mp h
    exact isKeyed_expect hr he
  case h_29 =>
    obtain ⟨key, -, rfl⟩ := Option.map_eq_some_iff.mp h
    exact isKeyed_expect hr (isKeyed_inside he.1 he.2)
  case h_30 => exact isKeyed_addPieces? hr h fun _ => he
  case h_31 => cases h; exact hr
  case h_32 => cases h; exact isKeyed_expect hr (isKeyed_inside he.1 he.2)
  case h_33 => cases h
  case h_34 => cases h; exact hr
  case h_35 => cases h; exact isKeyed_expect hr he
  case h_36 => exact isKeyed_closeTable? hr he h
  case h_37 => cases h

theorem isKeyed_next? (hr : r.IsKeyed) (h : r.next? t = some r') : r'.IsKeyed := by
  obtain ⟨document, header, expecting⟩ := r
  have he : expecting.IsKeyed := hr.expecting
  rw [next?.eq_def] at h
  dsimp only at h
  split at h
  case h_1 => cases h; exact isKeyed_expect hr he
  case h_2 => cases h; exact isKeyed_expect hr he
  case h_3 =>
    obtain ⟨ended, hended, h⟩ := Option.bind_eq_some_iff.mp h
    obtain ⟨v, hv, hplace⟩ := Option.bind_eq_some_iff.mp hended
    exact isKeyed_read? (isKeyed_place? hr he (isKeyed_of_read hv) hplace) h
  case h_4 => cases h; exact isKeyed_expect hr trivial
  case h_5 => cases h
  case h_6 => cases h; exact hr
  case h_7 => exact isKeyed_read? hr h

theorem isKeyed_foldlM {ts : List Token} (hr : r.IsKeyed) (h : ts.foldlM next? r = some r') :
    r'.IsKeyed := by
  induction ts generalizing r with
  | nil =>
    cases h
    exact hr
  | cons t ts ih =>
    rw [List.foldlM_cons] at h
    obtain ⟨r₁, hr₁, h⟩ := Option.bind_eq_some_iff.mp h
    exact ih (isKeyed_next? hr hr₁) h

end Reader

theorem isKeyed_read {text : String} {es : List (String × Toml)} (h : read? text = some es) :
    IsKeyed (.table es) := by
  obtain ⟨ts, -, h⟩ := Option.bind_eq_some_iff.mp h
  obtain ⟨r, hr, h⟩ := Option.bind_eq_some_iff.mp h
  obtain ⟨r', hr', h⟩ := Option.bind_eq_some_iff.mp h
  have hstart : Reader.IsKeyed ⟨[], [], .line⟩ := ⟨.nil, trivial⟩
  have hkeyed := Reader.isKeyed_next? (Reader.isKeyed_foldlM hstart hr) hr'
  split at h
  · cases h
    exact isKeyed_table_entriesToToml hkeyed.document
  · cases h

end SchemaProjection.Toml
