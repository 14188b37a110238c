import Reconcile.FileSystem.Basic
import Reconcile.Proofs.Path.Parent

/-!
# Paths that do not lead up

Where there is no link, a path without `..` leads from its start along its names (`Path.names`) and
nowhere else.  Joining such paths gives such a path again (`Path.Onward.join`), and what is above
one of them starts with fewer of its components (`Path.components_of_mem_ancestors`).
-/

namespace Reconcile

/-- The name that a component is, if it is one. -/
def Component.name? : Component → Option Name
  | .name n => some n
  | _ => none

/-- The name that is entered by a step, if one is. -/
def Step.name? : Step → Option Name
  | .enter n => some n
  | _ => none

namespace Path

/-- The names among the components of a path. -/
def names (p : Path) : List Name := p.components.filterMap Component.name?

/-- The path holds no `..`. -/
def Onward (p : Path) : Prop := Component.up ∉ p.components

instance (p : Path) : Decidable p.Onward := inferInstanceAs (Decidable (_ ∉ _))

lemma names_ofNames (ns : List Name) : (ofNames ns).names = ns := by
  rw [names, components_ofNames, List.filterMap_map]
  exact List.filterMap_some

variable {p q : Path}

/-! ## Components and pieces -/

/-- The components behind the lead are those of all pieces. -/
lemma components_eq (p : Path) :
    p.components =
      (lead p.bytes).1.toList ++ (p.bytes.splitOn slash).filterMap Component.ofPiece? := by
  rw [components, bodyPieces]
  congr 1
  rcases lead_cases p.bytes with ⟨h, hl⟩ | ⟨rest, h, hl⟩ | ⟨rest, h, hrest, hl⟩ | ⟨-, -, -, hl⟩
  · rw [hl, h]
  · rw [hl, h]
    simp [Component.ofPiece?_nil]
  · rw [hl, h]
    rcases hrest with rfl | ⟨rest', rfl⟩
    · rw [List.splitOn_eq_singleton (show slash ∉ [dot] by decide)]
      simp [Component.ofPiece?_nil, Component.ofPiece?_dot]
    · have hdot : (dot :: slash :: rest').splitOn slash = [dot] :: rest'.splitOn slash :=
        List.splitOn_append_cons_self_of_not_mem (show slash ∉ [dot] by decide) rest'
      rw [hdot]
      simp [Component.ofPiece?_nil, Component.ofPiece?_dot]
  · rw [hl]

lemma lead_toList (bytes : Bytes) :
    (lead bytes).1.toList = [] ∨ (lead bytes).1.toList = [.root] ∨
      (lead bytes).1.toList = [.here] := by
  rcases lead_cases bytes with ⟨-, hl⟩ | ⟨rest, -, hl⟩ | ⟨rest, -, -, hl⟩ | ⟨-, -, -, hl⟩ <;>
    simp [hl]

lemma ofPiece?_eq_up_iff {piece : Bytes} :
    Component.ofPiece? piece = some .up ↔ piece = [dot, dot] := by
  rw [Component.ofPiece?]
  split
  · simp_all
  · split <;> simp_all

theorem onward_iff : p.Onward ↔ [dot, dot] ∉ p.bytes.splitOn slash := by
  rw [Onward, components_eq, List.mem_append, List.mem_filterMap]
  have hlead : Component.up ∉ (lead p.bytes).1.toList := by
    rcases lead_toList p.bytes with h | h | h <;> simp [h]
  simp [hlead, ofPiece?_eq_up_iff]

/-! ## Steps -/

lemma stepOfPiece?_eq_up_iff {piece : Bytes} :
    Step.ofPiece? piece = some .up ↔ piece = [dot, dot] := by
  rw [Step.ofPiece?]
  split
  · simp_all
  · split
    · simp_all
    · split <;> simp_all

/-- A piece is entered as a name if it is a name. -/
lemma name?_ofPiece? (piece : Bytes) :
    (Step.ofPiece? piece).bind Step.name? = (Component.ofPiece? piece).bind Component.name? := by
  rw [Step.ofPiece?, Component.ofPiece?]
  by_cases hdot : piece = [dot]
  · subst hdot
    simp [Step.name?, Name.Proper]
  by_cases hup : piece = [dot, dot]
  · subst hup
    simp [Step.name?, Component.name?]
  by_cases hproper : Name.Proper piece
  · simp [hdot, hup, hproper, Step.name?, Component.name?]
  · simp [hdot, hup, hproper]

lemma Onward.up_notMem_steps (h : p.Onward) : .up ∉ p.steps := by
  have hopen : .up ∉ p.openSteps := by
    rw [openSteps, List.mem_filterMap]
    rintro ⟨piece, hpiece, hstep⟩
    exact onward_iff.1 h (stepOfPiece?_eq_up_iff.1 hstep ▸ hpiece)
  rw [steps]
  split
  · simp [hopen]
  · exact hopen

/-- The names that the steps of a path enter are the names of the path. -/
theorem names_steps (p : Path) : p.steps.filterMap Step.name? = p.names := by
  have hopen : p.openSteps.filterMap Step.name? = p.names := by
    have hlead : (lead p.bytes).1.toList.filterMap Component.name? = [] := by
      rcases lead_toList p.bytes with h | h | h <;> simp [h, Component.name?]
    rw [names, components_eq, List.filterMap_append, hlead, List.nil_append, openSteps,
      List.filterMap_filterMap, List.filterMap_filterMap]
    simp only [name?_ofPiece?]
  rw [steps]
  split
  · rw [List.filterMap_append, hopen]
    simp [Step.name?]
  · exact hopen

/-! ## Joins -/

theorem Onward.join (hp : p.Onward) (hq : q.Onward) : (p.join q).Onward := by
  rw [onward_iff] at hp hq ⊢
  rw [Path.join]
  split
  · exact hq
  split
  · rename_i hend
    rcases Bool.or_eq_true_iff.1 hend with hnil | hslash
    · rw [of_decide_eq_true hnil]
      exact hq
    · have hlast : p.bytes.getLast? = some slash := by simpa [endsInSlash] using hslash
      obtain ⟨t, ht⟩ := List.getLast?_eq_some_iff.1 hlast
      rw [ht, List.splitOn_append_cons_self, List.mem_append, not_or] at hp
      rw [ht, List.append_assoc, List.singleton_append, List.splitOn_append_cons_self,
        List.mem_append,
        not_or]
      exact ⟨hp.1, hq⟩
  · rw [List.splitOn_append_cons_self, List.mem_append, not_or]
    exact ⟨hp, hq⟩

/-! ## What is above a path -/

/-- A path starts at the root if that is its first component. -/
theorem isAbsolute_iff : p.isAbsolute = true ↔ p.components.head? = some .root := by
  have hbody : Component.root ∉ (p.bytes.splitOn slash).filterMap Component.ofPiece? := by
    rw [List.mem_filterMap]
    rintro ⟨piece, -, hpiece⟩
    rw [Component.ofPiece?] at hpiece
    split at hpiece
    · cases hpiece
    · split at hpiece <;> cases hpiece
  rw [isAbsolute, components_eq]
  rcases lead_cases p.bytes with ⟨h, hl⟩ | ⟨rest, h, hl⟩ | ⟨rest, h, -, hl⟩ | ⟨-, hhead, -, hl⟩
  · rw [hl, h]
    simp [Component.ofPiece?_nil]
  · rw [hl, h]
    simp
  · rw [hl, h]
    simp [dot, slash]
  · rw [hl]
    simp only [hhead, decide_false, Bool.false_eq_true, Option.toList_none, List.nil_append,
      false_iff]
    exact fun hroot => hbody (List.mem_of_head? hroot)

/-- What is above a path starts with fewer of its components. -/
theorem components_of_mem_ancestors {a : Path} (h : a ∈ p.ancestors) :
    a.components <+: p.components := by
  rw [ancestors] at h
  generalize p.components.length = count at h
  induction count generalizing p with
  | zero =>
    obtain rfl := List.mem_singleton.1 h
    exact List.prefix_refl _
  | succ count ih =>
    rw [ancestors.go] at h
    cases hparent : p.parent? with
    | none =>
      rw [hparent] at h
      obtain rfl := List.mem_singleton.1 h
      exact List.prefix_refl _
    | some q =>
      rw [hparent] at h
      rcases List.mem_cons.1 h with rfl | h
      · exact List.prefix_refl _
      · obtain ⟨c, hcomponents⟩ := components_of_parent? hparent
        exact (ih h).trans ⟨[c], hcomponents.symm⟩

end Path
end Reconcile
