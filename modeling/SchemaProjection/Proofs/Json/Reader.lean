import SchemaProjection.Json.Reader
import SchemaProjection.Proofs.Json.Value

namespace SchemaProjection.Json

variable {α : Type} {j v : Json} {text : String} {rest : List Char} {t : Token}
  {ts after : List Token} {f : Frame} {fs : List Frame} {members : List (String × Json)}
  {e e' : Expecting}

def ReadsScalar (x : Except Fault (Json × List Char)) : Prop :=
  ∀ j rest, x = .ok (j, rest) → j.depth = 0

theorem readsScalar_ok (h : j.depth = 0) : ReadsScalar (.ok (j, rest)) := by
  intro j rest heq
  cases heq
  exact h

theorem readsScalar_error (f : Fault) : ReadsScalar (.error f) := by
  intro j rest heq
  cases heq

theorem readsScalar_bind {x : Except Fault α} {f : α → Except Fault (Json × List Char)}
    (h : ∀ a, ReadsScalar (f a)) : ReadsScalar (x >>= f) := by
  intro j rest heq
  obtain ⟨a, -, ha⟩ := Outcome.bind_eq_ok_iff.mp heq
  exact h a j rest ha

theorem readsScalar_ite {p : Prop} [Decidable p] {x y : Except Fault (Json × List Char)}
    (hx : ReadsScalar x) (hy : ReadsScalar y) : ReadsScalar (if p then x else y) := by
  split
  · exact hx
  · exact hy

theorem readsScalar_scanNumber (cs : List Char) : ReadsScalar (scanNumber cs) := by
  unfold scanNumber
  split
  -- the continuations stand for all the places that go on with them
  extract_lets whole rest afterFraction afterZero afterWhole
  clear_value whole rest
  have hfraction : ∀ x, ReadsScalar (afterFraction x) := by
    rintro ⟨fraction, rest⟩
    apply readsScalar_bind
    rintro ⟨e, rest⟩
    apply readsScalar_ite
    · apply readsScalar_bind
      intro _
      exact readsScalar_ite (readsScalar_ok rfl) (readsScalar_ok rfl)
    · exact readsScalar_ite (readsScalar_ok rfl) (readsScalar_ok rfl)
  have hzero : ∀ u, ReadsScalar (afterZero u) := by
    intro u
    dsimp only [afterZero]
    split
    · split
      · exact readsScalar_bind hfraction
      · exact readsScalar_bind hfraction
      · exact readsScalar_bind hfraction
    · exact readsScalar_bind hfraction
  have hwhole : ∀ u, ReadsScalar (afterWhole u) := fun u =>
    readsScalar_ite (readsScalar_bind hzero) (hzero u)
  exact readsScalar_ite (readsScalar_bind hwhole) (hwhole ())

theorem readsScalar_scanScalar (run : List Char) : ReadsScalar (Token.scanScalar run) := by
  rw [Token.scanScalar.eq_def]
  split
  · exact readsScalar_ok rfl
  · exact readsScalar_ok rfl
  · exact readsScalar_ok rfl
  · exact readsScalar_ite (readsScalar_error _) (readsScalar_scanNumber _)

def Token.Flat : Token → Prop
  | .scalar v => v.depth = 0
  | _ => True

namespace Token

theorem flat_of_mem_ofRun {run : List Char} {atEnd : Bool} (h : t ∈ ofRun run atEnd) :
    t.Flat := by
  rw [ofRun] at h
  split at h
  next hv =>
    rw [List.mem_singleton.mp h]
    exact readsScalar_scanScalar run _ _ hv
  next hv =>
    obtain rfl | h := List.mem_cons.mp h
    · exact readsScalar_scanScalar run _ _ hv
    · rw [List.mem_singleton.mp h]
      trivial
  next =>
    rw [List.mem_singleton.mp h]
    trivial
  next =>
    rw [List.mem_singleton.mp h]
    trivial

theorem flat_of_punctuation? {c : Char} (h : punctuation? c = some t) : t.Flat := by
  rw [punctuation?.eq_def] at h
  split at h
  all_goals cases h
  all_goals trivial

theorem flat_of_mem_read {cs : List Char} (h : t ∈ read cs) : t.Flat := by
  fun_induction read cs with
  | case1 => cases h
  | case2 _ _ _ ih => exact ih h
  | case3 _ _ _ _ ht ih =>
    obtain rfl | h := List.mem_cons.mp h
    · exact flat_of_punctuation? ht
    · exact ih h
  | case4 _ _ _ _ _ _ _ ih =>
    obtain rfl | h := List.mem_cons.mp h
    · trivial
    · exact ih h
  | case5 =>
    rw [List.mem_singleton.mp h]
    trivial
  | case6 _ _ _ _ _ _ _ ih =>
    obtain h | h := List.mem_append.mp h
    · exact flat_of_mem_ofRun h
    · exact ih h
  | case7 =>
    rw [List.mem_singleton.mp h]
    trivial

end Token

namespace Frame

def values : Frame → List Json
  | .array items => items
  | .object members _ => members.map (·.2)

/-- Whether open containers, the innermost first, leave room for the values that they hold. -/
def AllFit : List Frame → Prop
  | [] => True
  | f :: fs =>
    fs.length < Expecting.deepest ∧
      (∀ v ∈ f.values, v.depth + fs.length < Expecting.deepest) ∧ AllFit fs

theorem length_le_of_allFit (h : AllFit fs) : fs.length ≤ Expecting.deepest := by
  cases fs with
  | nil => exact Nat.zero_le _
  | cons f fs => exact h.1

theorem allFit_push {g : Frame} (h : AllFit (f :: fs))
    (hv : v.depth + fs.length < Expecting.deepest) (hg : g.values = v :: f.values) :
    AllFit (g :: fs) := by
  obtain ⟨hroom, hvalues, hfs⟩ := h
  refine ⟨hroom, ?_, hfs⟩
  rw [hg, List.forall_mem_cons]
  exact ⟨hv, hvalues⟩

end Frame

namespace Expecting

/-- Whether all containers that are open, or about to be opened, leave room for their values. -/
def Fits : Expecting → Prop
  | .value fs => Frame.AllFit fs
  | .itemOrEnd fs => Frame.AllFit (.array [] :: fs)
  | .nameOrEnd fs => Frame.AllFit (.object [] "" :: fs)
  | .name ms fs => Frame.AllFit (.object ms "" :: fs)
  | .colon ms n fs => Frame.AllFit (.object ms n :: fs)
  | .separator v fs => v.depth + fs.length ≤ deepest ∧ Frame.AllFit fs

theorem fits_closeArray {items : List Json} (h : Frame.AllFit (.array items :: fs)) :
    (separator (.array items.reverse) fs).Fits := by
  obtain ⟨hroom, hitems, hfs⟩ := h
  have hle : (Json.array items.reverse).depth ≤ deepest - fs.length := by
    rw [depth_array_le_iff]
    refine ⟨by omega, fun v hv => ?_⟩
    have hlt := hitems v (List.mem_reverse.mp hv)
    omega
  exact ⟨by omega, hfs⟩

theorem fits_closeObject (h : Frame.AllFit (.object members "" :: fs)) :
    (separator (.object members.reverse) fs).Fits := by
  obtain ⟨hroom, hmembers, hfs⟩ := h
  have hle : (Json.object members.reverse).depth ≤ deepest - fs.length := by
    rw [depth_object_le_iff]
    refine ⟨by omega, fun e he => ?_⟩
    have hlt := hmembers e.2 (List.mem_map_of_mem (List.mem_reverse.mp he))
    omega
  exact ⟨by omega, hfs⟩

theorem fits_separator (hv : v.depth = 0) (hf : Frame.AllFit fs) : (separator v fs).Fits := by
  refine ⟨?_, hf⟩
  rw [hv, Nat.zero_add]
  exact Frame.length_le_of_allFit hf

theorem fits_beginValue (ht : t.Flat) (hf : Frame.AllFit fs) (h : beginValue fs t = .ok e) :
    e.Fits := by
  rw [beginValue.eq_def] at h
  split at h
  next => cases h; exact fits_separator ht hf
  next => cases h; exact fits_separator rfl hf
  next =>
    split at h
    next hroom => cases h; exact ⟨hroom, List.forall_mem_nil _, hf⟩
    next => cases h
  next =>
    split at h
    next hroom => cases h; exact ⟨hroom, List.forall_mem_nil _, hf⟩
    next => cases h
  all_goals cases h

theorem fits_beginMember (hf : Frame.AllFit (.object members "" :: fs))
    (h : beginMember members fs t = .ok e) : e.Fits := by
  rw [beginMember.eq_def] at h
  split at h
  next => cases h; exact hf
  all_goals cases h

theorem fits_next (ht : t.Flat) (he : e.Fits) (h : e.next t = .ok e') : e'.Fits := by
  -- the cases are the equations of `next`, in their order
  rw [next.eq_def] at h
  split at h
  case h_1 => exact fits_beginValue ht he h
  case h_2 => cases h; exact fits_closeArray he
  case h_3 => exact fits_beginValue ht he h
  case h_4 => cases h; exact fits_closeObject he
  case h_5 => exact fits_beginMember he h
  case h_6 => exact fits_beginMember he h
  case h_7 => cases h; exact he
  case h_8 => cases h; exact Frame.allFit_push he.2 he.1 rfl
  case h_9 => cases h; exact fits_closeArray (Frame.allFit_push he.2 he.1 rfl)
  case h_10 => cases h; exact Frame.allFit_push he.2 he.1 rfl
  case h_11 => cases h; exact fits_closeObject (Frame.allFit_push he.2 he.1 rfl)
  case h_12 => cases h

theorem depth_le_of_finish (hts : ∀ t ∈ ts, t.Flat) (he : e.Fits)
    (h : e.finish ts = .ok (v, after)) : v.depth ≤ deepest := by
  fun_induction finish e ts with
  | case1 => cases h; exact he.1
  | case2 => cases h
  | case3 e t ts _ ih =>
    obtain ⟨ht, hts⟩ := List.forall_mem_cons.mp hts
    obtain ⟨e', hnext, h⟩ := Outcome.bind_eq_ok_iff.mp h
    exact ih e' hts (fits_next ht he hnext) h

end Expecting

theorem append_eq_ofList {a b : String} {as bs : List Char} (ha : a = .ofList as)
    (hb : b = .ofList bs) : a ++ b = .ofList (as ++ bs) := by
  rw [ha, hb, String.ofList_append]

theorem read_ofList (cs : List Char) :
    read (.ofList cs) =
      (Expecting.value []).finish (Token.read cs) >>= fun r => (checkEnd r.2).map fun _ => r.1 := by
  rw [read, readValue, String.toList_ofList]
  rfl

theorem depth_le_of_read (h : read text = .ok j) : j.depth ≤ Expecting.deepest := by
  obtain ⟨⟨v, after⟩, hv, h⟩ := Outcome.bind_eq_ok_iff.mp h
  obtain ⟨-, h⟩ := Outcome.check_bind_eq_ok_iff.mp h
  cases h
  exact Expecting.depth_le_of_finish (e := .value []) (fun t ht => Token.flat_of_mem_read ht)
    trivial hv

end SchemaProjection.Json
