import SchemaProjection.Proofs.Naming
import SchemaProjection.Proofs.Text.PascalCase
import SchemaProjection.Proofs.Text.Runs

namespace SchemaProjection

namespace Text

variable {s : String} {runs : List (List Char)}

/-- Runs put together, each with its first character raised. -/
def joinRaised (runs : List (List Char)) : List Char :=
  runs.flatMap (List.modifyHead Char.toUpper)

theorem modifyHead_append_of_ne_nil {as : List Char} (f : Char → Char) (h : as ≠ [])
    (bs : List Char) : (as ++ bs).modifyHead f = as.modifyHead f ++ bs := by
  cases as with
  | nil => exact absurd rfl h
  | cons a as => rfl

/-- The loop of Pascal case beside the one that reads the runs. Of the run being read everything is
written already, and the next character is raised just when nothing is read of it. -/
theorem joinRaised_partsFrom (part cs : List Char) :
    joinRaised (partsFrom (!·.isAlphanum) part cs) =
      part.reverse.modifyHead Char.toUpper ++ pascalFrom part.isEmpty cs := by
  induction cs generalizing part with
  | nil =>
    cases part with
    | nil => rfl
    | cons x xs => simp [partsFrom, pascalFrom, joinRaised]
  | cons c cs ih =>
    rw [partsFrom, pascalFrom]
    by_cases hc : c.isAlphanum = true
    · have hcontinued : (!c.isAlphanum) ≠ true := by simp [hc]
      rw [if_neg hcontinued, if_pos hc, ih, List.reverse_cons]
      cases part with
      | nil => rfl
      | cons x xs =>
        rw [modifyHead_append_of_ne_nil _ (by simp), List.append_assoc]
        rfl
    · have hends : (!c.isAlphanum) = true := by simp [hc]
      rw [if_pos hends, if_neg hc]
      cases part with
      | nil => exact ih []
      | cons x xs =>
        rw [List.isEmpty_cons, if_neg Bool.false_ne_true, joinRaised, List.flatMap_cons]
        exact congrArg _ (ih [])

theorem toList_pascalCase (s : String) :
    (pascalCase s).toList = joinRaised (partsFrom (!·.isAlphanum) [] s.toList) := by
  rw [pascalCase, String.toList_ofList, joinRaised_partsFrom]
  rfl

example : pascalCase "déjà 2nd_ofALL" = "DJ2ndOfALL" := by decide +kernel

theorem toList_pascalCase_of_areRuns (h : AreRuns (!·.isAlphanum) s.toList runs) :
    (pascalCase s).toList = joinRaised runs := by
  rw [toList_pascalCase, h.unique (areRuns_partsFrom s.toList)]

theorem toList_pascalCase_of_alphanum (h : ∀ x ∈ s.toList, x.isAlphanum = true) :
    (pascalCase s).toList = s.toList.modifyHead Char.toUpper := by
  rw [toList_pascalCase]
  by_cases hs : s.toList = []
  · rw [hs]
    rfl
  · rw [partsFrom_of_forall (fun x hx => by simp [h x hx]) hs]
    simp [joinRaised]

theorem modifyHead_joinRaised (h : ∀ run ∈ runs, run ≠ []) :
    (joinRaised runs).modifyHead Char.toUpper = joinRaised runs := by
  cases runs with
  | nil => rfl
  | cons run runs =>
    obtain ⟨x, xs, rfl⟩ := List.exists_cons_of_ne_nil (h run List.mem_cons_self)
    simp only [joinRaised, List.flatMap_cons, List.modifyHead_cons, List.cons_append,
      toUpper_toUpper]

theorem pascalCase_pascalCase (s : String) : pascalCase (pascalCase s) = pascalCase s := by
  apply String.toList_injective
  rw [toList_pascalCase_of_alphanum (isAlphanum_of_mem_pascalCase s), toList_pascalCase,
    modifyHead_joinRaised fun run hrun => (mem_partsFrom hrun).1]

end Text

open Text

theorem defaultClassName_inj {domain : Domain} {a b : String} :
    domain.defaultClassName a = domain.defaultClassName b ↔ a = b := by
  cases domain <;> rw [Domain.defaultClassName, Domain.defaultClassName, String.append_left_inj,
    String.append_right_inj]

/-- The entity has a valid class name, and no override gives it. -/
structure NamedByDefault (c : Configuration) (domain : Domain) (entity : Identity) (n : String) :
    Prop where
  notOverridden : (c.overridesFor domain entity).bind (·.className) = none
  valid : c.className domain entity = .ok n

/-- Pascal case joins the runs of letters and digits of a text, each with its first character
raised, so it leaves nothing to do for a second time. Entities of one domain that are named by
default share a class name exactly when this makes their seeds one. -/
theorem defaultClassNames_by_runs :
    (∀ s : String,
      (∃! runs, AreRuns (!·.isAlphanum) s.toList runs) ∧
      (∀ runs, AreRuns (!·.isAlphanum) s.toList runs →
        (pascalCase s).toList = joinRaised runs) ∧
      pascalCase (pascalCase s) = pascalCase s ∧
      (∀ x ∈ (pascalCase s).toList, x.isAlphanum = true) ∧
      (pascalCase s = "" ↔ ∀ x ∈ s.toList, ¬ x.isAlphanum = true)) ∧
    ∀ (c : Configuration) (domain : Domain) (first second : Identity) (n m : String)
      (runs others : List (List Char)),
      NamedByDefault c domain first n → NamedByDefault c domain second m →
      AreRuns (!·.isAlphanum) first.seed.toList runs →
      AreRuns (!·.isAlphanum) second.seed.toList others →
      (n = m ↔ joinRaised runs = joinRaised others) := by
  refine ⟨fun s => ⟨?_, fun runs => toList_pascalCase_of_areRuns, pascalCase_pascalCase s,
    isAlphanum_of_mem_pascalCase s, pascalCase_eq_empty_iff⟩, ?_⟩
  · exact ⟨_, areRuns_partsFrom s.toList, fun runs h => h.unique (areRuns_partsFrom s.toList)⟩
  · intro c domain first second n m runs others hn hm hruns hothers
    rw [Configuration.className_of_default hn.notOverridden hn.valid,
      Configuration.className_of_default hm.notOverridden hm.valid, defaultClassName_inj,
      ← toList_pascalCase_of_areRuns hruns, ← toList_pascalCase_of_areRuns hothers,
      String.toList_inj]

def resized : Configuration :=
  ({} : Configuration).applyAll [.attributeName "T-Shirt" "size" "extent"]

def garment (name : String) : Identity :=
  ProductType.identity { id := name, name := name }

theorem defaultClassNames_by_runs_garments :
    ∃ n m k,
      NamedByDefault resized .variantAttributes (garment "T-Shirt") n ∧
      NamedByDefault resized .variantAttributes (garment "¡t Shirt!") m ∧
      NamedByDefault resized .variantAttributes (garment "Tshirt") k ∧ n = m ∧ n ≠ k := by
  have hn : NamedByDefault resized .variantAttributes (garment "T-Shirt")
      "TypedTShirtVariantAttributes" := ⟨rfl, rfl⟩
  have hm : NamedByDefault resized .variantAttributes (garment "¡t Shirt!")
      "TypedTShirtVariantAttributes" := ⟨rfl, rfl⟩
  have hk : NamedByDefault resized .variantAttributes (garment "Tshirt")
      "TypedTshirtVariantAttributes" := ⟨rfl, rfl⟩
  have hruns : AreRuns (!·.isAlphanum) "T-Shirt".toList ["T".toList, "Shirt".toList] :=
    areRuns_partsFrom _
  have hspaced : AreRuns (!·.isAlphanum) "¡t Shirt!".toList ["t".toList, "Shirt".toList] :=
    areRuns_partsFrom _
  have hjoined : AreRuns (!·.isAlphanum) "Tshirt".toList ["Tshirt".toList] :=
    areRuns_partsFrom _
  obtain ⟨-, hsame⟩ := defaultClassNames_by_runs
  exact ⟨_, _, _, hn, hm, hk, (hsame _ _ _ _ _ _ _ _ hn hm hruns hspaced).mpr rfl,
    mt (hsame _ _ _ _ _ _ _ _ hn hk hruns hjoined).mp (by decide)⟩

end SchemaProjection
