namespace SchemaProjection

variable {α β : Type}

namespace KeyMap

def insertEntry (k : String) (v : α) : List (String × α) → List (String × α)
  | [] => [(k, v)]
  | (k', v') :: es =>
    if k < k' then (k, v) :: (k', v') :: es
    else if k = k' then (k, v) :: es
    else (k', v') :: insertEntry k v es

theorem mem_insertEntry {k : String} {v : α} {e : String × α} {es : List (String × α)} :
    e ∈ insertEntry k v es → e = (k, v) ∨ e ∈ es := by
  induction es with
  | nil => simp [insertEntry]
  | cons hd tl ih =>
    obtain ⟨k', v'⟩ := hd
    rw [insertEntry]
    split <;> (try split) <;> grind

theorem lt_of_not_lt_of_ne {a b : String} (h : ¬ a < b) (hne : a ≠ b) : b < a := by
  rcases String.le_total a b with hab | hba
  · exact absurd (String.le_antisymm hab (String.not_lt.1 h)) hne
  · exact Classical.byContradiction fun hn => hne (String.le_antisymm (String.not_lt.1 hn) hba)

theorem insertEntry_ordered (k : String) (v : α) {es : List (String × α)}
    (h : es.Pairwise (·.1 < ·.1)) : (insertEntry k v es).Pairwise (·.1 < ·.1) := by
  induction es with
  | nil => simp [insertEntry]
  | cons hd tl ih =>
    obtain ⟨k', v'⟩ := hd
    obtain ⟨hlt, htl⟩ := List.pairwise_cons.1 h
    rw [insertEntry]
    split
    next hk =>
      exact List.pairwise_cons.2 ⟨fun e he => (List.mem_cons.1 he).elim (fun h => h ▸ hk)
        fun he => String.lt_trans hk (hlt e he), h⟩
    next hk =>
      split
      next heq => exact List.pairwise_cons.2 ⟨fun e he => heq ▸ hlt e he, htl⟩
      next hne =>
        exact List.pairwise_cons.2 ⟨fun e he => (mem_insertEntry he).elim
          (fun h => h ▸ lt_of_not_lt_of_ne hk hne) (hlt e), ih htl⟩

end KeyMap

/-- Entries ordered by key, one for each key. -/
structure KeyMap (α : Type) where
  entries : List (String × α)
  ordered : entries.Pairwise (·.1 < ·.1)

namespace KeyMap

def empty : KeyMap α := ⟨[], .nil⟩

instance : EmptyCollection (KeyMap α) := ⟨empty⟩

instance : Inhabited (KeyMap α) := ⟨empty⟩

theorem eq_of_entries {m n : KeyMap α} (h : m.entries = n.entries) : m = n := by
  cases m; cases n; cases h; rfl

instance [DecidableEq α] : DecidableEq (KeyMap α) := fun m n =>
  decidable_of_iff (m.entries = n.entries) ⟨eq_of_entries, congrArg entries⟩

def get? (m : KeyMap α) (k : String) : Option α :=
  m.entries.lookup k

def contains (m : KeyMap α) (k : String) : Bool :=
  (m.get? k).isSome

def insert (m : KeyMap α) (k : String) (v : α) : KeyMap α :=
  ⟨insertEntry k v m.entries, insertEntry_ordered k v m.ordered⟩

def insertNew (m : KeyMap α) (k : String) (v : α) : KeyMap α :=
  if m.contains k then m else m.insert k v

/-- Changes the value for a key, which is `default` if there is none. -/
def update (m : KeyMap α) (k : String) (default : α) (f : α → α) : KeyMap α :=
  m.insert k (f ((m.get? k).getD default))

def ofList (es : List (String × α)) : KeyMap α :=
  es.foldl (fun m e => m.insert e.1 e.2) empty

def keys (m : KeyMap α) : List String :=
  m.entries.map (·.1)

def size (m : KeyMap α) : Nat :=
  m.entries.length

theorem lookup_cons_eq_ite (k a : String) (b : α) (es : List (String × α)) :
    ((a, b) :: es).lookup k = if k = a then some b else es.lookup k := by
  by_cases h : k = a
  · simp [h]
  · have : (k == a) = false := by simpa using h
    simp [List.lookup_cons, this, h]

theorem lookup_insertEntry (k k' : String) (v : α) (es : List (String × α)) :
    (insertEntry k v es).lookup k' = if k' = k then some v else es.lookup k' := by
  induction es with
  | nil => simp [insertEntry, lookup_cons_eq_ite]
  | cons hd tl ih =>
    obtain ⟨a, b⟩ := hd
    rw [insertEntry]
    split
    · simp [lookup_cons_eq_ite]
    · split
      next heq => subst heq; by_cases h : k' = k <;> simp [lookup_cons_eq_ite, h]
      next hne =>
        by_cases ha : k' = a
        · simp [ha, Ne.symm hne]
        · simp [lookup_cons_eq_ite, ha, ih]

theorem get?_insert (m : KeyMap α) (k k' : String) (v : α) :
    (m.insert k v).get? k' = if k' = k then some v else m.get? k' :=
  lookup_insertEntry k k' v m.entries

@[simp] theorem get?_insert_self (m : KeyMap α) (k : String) (v : α) :
    (m.insert k v).get? k = some v := by
  simp [get?_insert]

theorem get?_insert_of_ne (m : KeyMap α) {k k' : String} (v : α) (h : k' ≠ k) :
    (m.insert k v).get? k' = m.get? k' := by
  simp [get?_insert, h]

@[simp] theorem get?_empty (k : String) : (empty : KeyMap α).get? k = none := rfl

theorem get?_insertNew (m : KeyMap α) (k k' : String) (v : α) :
    (m.insertNew k v).get? k' = (m.get? k').or (if k' = k then some v else none) := by
  unfold insertNew contains
  by_cases h : k' = k
  · subst k'
    cases hk : m.get? k with
    | none => simp
    | some w => simp [hk]
  · cases hk : m.get? k with
    | none => simp [h, get?_insert_of_ne]
    | some w => simp [h]

end KeyMap

end SchemaProjection
