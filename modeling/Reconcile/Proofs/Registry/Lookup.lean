import Reconcile.Proofs.Text.LowerCase
import Reconcile.Registry.Bundled

/-!
# Types by name

The identifier of a name is what is left of it without spaces and in lower case.  Spaces are dropped
first.  So neither the spaces of a name nor the case of its ASCII letters tell two names apart, even
where the form of a sigma depends on what stands beside it (`Registry.idOfName_eq_of_foldName_eq`),
and an identifier is its own identifier (`Registry.idOfName_idOfName`).
-/

namespace Reconcile
namespace Registry

/-- The characters of a name without its spaces, and with small letters of ASCII for capital
ones. -/
def foldName (name : String) : List Char := (name.toList.filter fun c => c ≠ ' ').map Char.toLower

variable {m n : String}

/-- The identifier, from what is left if only spaces and the case of ASCII are taken away. -/
lemma idOfName_eq (name : String) :
    idOfName name = String.ofList (Unicode.lowerAfter [] (foldName name)) := by
  have hfold := Unicode.lowerAfter_map_toLower [] (name.toList.filter fun c => c ≠ ' ')
  rw [List.map_nil] at hfold
  rw [idOfName, Unicode.lower, String.toList_ofList, foldName, hfold]

theorem idOfName_eq_of_foldName_eq (h : foldName m = foldName n) : idOfName m = idOfName n := by
  rw [idOfName_eq, idOfName_eq, h]

example : idOfName " A pex CLASS" = "apexclass" := by decide

lemma space_notMem_idOfName (name : String) : ' ' ∉ (idOfName name).toList := by
  rw [idOfName, Unicode.lower, String.toList_ofList, String.toList_ofList]
  intro hspace
  have hkept := (Unicode.settled_of_mem_lowerAfter hspace).2 rfl
  simp at hkept

/-- An identifier is its own identifier. -/
theorem idOfName_idOfName (name : String) : idOfName (idOfName name) = idOfName name := by
  have hfilter : ((idOfName name).toList.filter fun c => c ≠ ' ') = (idOfName name).toList := by
    refine List.filter_eq_self.2 fun c hc => decide_eq_true ?_
    rintro rfl
    exact space_notMem_idOfName name hc
  rw [idOfName, hfilter, String.ofList_toList, idOfName, Unicode.lower_lower]

/-- A name that is not known is reported by its identifier. -/
lemma typeFromName_eq_error_iff {r : Registry} {name : String} {e : ClassifyError} :
    r.typeFromName name = .error e ↔
      e = .unknownType (idOfName name) ∧ r.types.get? (idOfName name) = none := by
  rw [typeFromName, typeById]
  split
  · rename_i type hsome
    simp [hsome]
  · rename_i hnone
    simp [hnone, eq_comm]

/-- **Names are looked up without regard to spaces and to the case of ASCII letters.**  Names that
differ in nothing else lead to the same type, or are unknown by the same identifier; and under an
identifier that is reported as unknown nothing is found either, and it is reported once more. -/
theorem typeFromName_eq_of_foldName_eq (r : Registry) (h : foldName m = foldName n) :
    r.typeFromName m = r.typeFromName n ∧
      ∀ e, r.typeFromName m = .error e →
        ∃ id, e = .unknownType id ∧ r.typeFromName id = .error (.unknownType id) := by
  constructor
  · rw [typeFromName, typeFromName, idOfName_eq_of_foldName_eq h]
  · intro e herror
    obtain ⟨rfl, hnone⟩ := typeFromName_eq_error_iff.1 herror
    refine ⟨idOfName m, rfl, typeFromName_eq_error_iff.2 ?_⟩
    rw [idOfName_idOfName]
    exact ⟨rfl, hnone⟩

/-- The space behind the sigma is dropped before it is asked what follows the sigma. -/
theorem typeFromName_sigma_space :
    foldName "AΣ B" = foldName "aΣb" ∧
      bundled.typeFromName "AΣ B" = .error (.unknownType "aσb") ∧
      bundled.typeFromName "aΣb" = .error (.unknownType "aσb") ∧
      bundled.typeFromName "aσb" = .error (.unknownType "aσb") := by
  have hfold : foldName "AΣ B" = foldName "aΣb" := by decide
  have hunknown : bundled.typeFromName "AΣ B" = .error (.unknownType "aσb") :=
    typeFromName_eq_error_iff.2 (by decide)
  obtain ⟨hsame, hagain⟩ := typeFromName_eq_of_foldName_eq bundled hfold
  obtain ⟨id, hid, hreported⟩ := hagain _ hunknown
  obtain rfl := ClassifyError.unknownType.inj hid
  exact ⟨hfold, hunknown, hsame ▸ hunknown, hreported⟩

end Registry
end Reconcile
