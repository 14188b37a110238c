import Reconcile.Proofs.Path.Onward

/-!
# Paths with the same components

Two spellings of a path differ in blank pieces only, in empty ones and in those that are `.`.  So
the components say all about a path that does not depend on such pieces: where it starts
(`Path.isAbsolute_congr`), the moves that are made on its way (`Path.filter_openSteps`), and what
holds of each of its pieces (`Path.forall_pieces_iff`).  The names below a path are stripped off
again however it is spelled, also if its text is empty (`Path.strip_descend`).
-/

namespace Reconcile

/-- The step that a component stands for, if it moves. -/
def Component.step? : Component → Option Step
  | .up => some .up
  | .name n => some (.enter n)
  | _ => none

namespace Path

/-- The steps on the way of a path that move. -/
def moves (p : Path) : List Step := p.components.filterMap Component.step?

variable {p q : Path} {ns : List Name} {piece : Bytes} {c : Component}

/-! ## Pieces -/

/-- A piece that stands for no component is blank. -/
lemma eq_of_ofPiece?_none (hslash : slash ∉ piece) (h : Component.ofPiece? piece = none) :
    piece = [] ∨ piece = [dot] := by
  by_contra hne
  rw [not_or] at hne
  have hsome := isSome_ofPiece? hne.1 hslash hne.2
  rw [h] at hsome
  cases hsome

lemma bytes_of_ofPiece? (h : Component.ofPiece? piece = some c) : c.bytes = piece := by
  rw [Component.ofPiece?] at h
  split at h
  · rename_i hup
    rw [← Option.some.inj h, hup]
    rfl
  split at h
  · rw [← Option.some.inj h]
    rfl
  · cases h

/-- What holds of `.` and of the empty text holds of all pieces of a path if it holds of its
components. -/
theorem forall_pieces_iff {P : Bytes → Prop} (hnil : P []) (hdot : P [dot]) (hroot : P [slash]) :
    (∀ piece ∈ p.bytes.splitOn slash, P piece) ↔ ∀ c ∈ p.components, P c.bytes := by
  rw [components_eq]
  constructor
  · intro h c hc
    rcases List.mem_append.1 hc with hlead | hbody
    · rcases lead_toList p.bytes with hnone | hlead' | hlead'
      · rw [hnone] at hlead
        cases hlead
      · rw [hlead', List.mem_singleton] at hlead
        rwa [hlead]
      · rw [hlead', List.mem_singleton] at hlead
        rwa [hlead]
    · obtain ⟨piece, hpiece, hof⟩ := List.mem_filterMap.1 hbody
      rw [bytes_of_ofPiece? hof]
      exact h piece hpiece
  · intro h piece hpiece
    cases hof : Component.ofPiece? piece with
    | none =>
      rcases eq_of_ofPiece?_none (sep_notMem_of_mem_splitOn hpiece) hof with rfl | rfl
      · exact hnil
      · exact hdot
    | some c =>
      rw [← bytes_of_ofPiece? hof]
      exact h c (List.mem_append_right _ (List.mem_filterMap.2 ⟨piece, hpiece, hof⟩))

/-! ## What the components say -/

lemma bytes_eq_nil_iff : p.bytes = [] ↔ p.components = [] := by
  constructor
  · intro h
    obtain rfl : p = ⟨[]⟩ := eq_of_bytes h
    rfl
  · intro h
    by_contra hp
    exact components_ne_nil hp h

lemma isAbsolute_congr (h : p.components = q.components) : p.isAbsolute = q.isAbsolute := by
  rw [Bool.eq_iff_iff, isAbsolute_iff, isAbsolute_iff, h]

/-- Whether a NUL is in a path can be told from its components. -/
lemma nul_notMem_iff : 0 ∉ p.bytes ↔ ∀ c ∈ p.components, 0 ∉ c.bytes := by
  have hnul : 0 ≠ slash := by decide
  rw [← forall_pieces_iff (P := fun bytes => 0 ∉ bytes) (by simp) (by decide) (by decide),
    ← exists_mem_splitOn hnul]
  simp

/-- A piece moves as the component does for which it stands. -/
lemma filter_stepOfPiece? (piece : Bytes) :
    (Step.ofPiece? piece).filter (fun step => step ≠ .here) =
      (Component.ofPiece? piece).bind Component.step? := by
  rw [Step.ofPiece?, Component.ofPiece?]
  by_cases hdot : piece = [dot]
  · subst hdot
    simp [Name.Proper]
  by_cases hup : piece = [dot, dot]
  · subst hup
    simp [Component.step?]
  by_cases hproper : Name.Proper piece
  · simp [hdot, hup, hproper, Component.step?]
  · simp [hdot, hup, hproper]

/-- Apart from those that stay, the steps of a path can be told from its components. -/
theorem filter_openSteps (p : Path) : p.openSteps.filter (fun step => step ≠ .here) = p.moves := by
  have hlead : (lead p.bytes).1.toList.filterMap Component.step? = [] := by
    rcases lead_toList p.bytes with h | h | h <;> simp [h, Component.step?]
  have hpieces : ∀ pieces : List Bytes,
      (pieces.filterMap Step.ofPiece?).filter (fun step => step ≠ .here) =
        (pieces.filterMap Component.ofPiece?).filterMap Component.step? := by
    intro pieces
    rw [List.filterMap_filterMap]
    simp only [← filter_stepOfPiece?, List.filter_filterMap]
  rw [moves, components_eq, List.filterMap_append, hlead, List.nil_append, openSteps, hpieces]

/-- Below two spellings of one path the same names lead to two spellings of one path. -/
lemma components_descend_congr (h : p.components = q.components) (ns : List Name) :
    (p.descend ns).components = (q.descend ns).components := by
  by_cases hp : p.bytes = []
  · have hq : q.bytes = [] := by rw [bytes_eq_nil_iff, ← h, ← bytes_eq_nil_iff, hp]
    rw [eq_of_bytes (hp.trans hq.symm)]
  · have hq : q.bytes ≠ [] := by rwa [ne_eq, bytes_eq_nil_iff, ← h, ← bytes_eq_nil_iff]
    rw [components_descend hp, components_descend hq, h]

/-! ## Slashes at the end -/

/-- The path with slashes put behind it. -/
def slashed (p : Path) (count : Nat) : Path := ⟨p.bytes ++ List.replicate count slash⟩

/-- A slash at the end is no component. -/
lemma components_slash {t : Bytes} (ht : t ≠ []) :
    (⟨t ++ [slash]⟩ : Path).components = (⟨t⟩ : Path).components := by
  rw [components, components, bodyPieces, bodyPieces, lead_append_slash ht,
    List.splitOn_append_cons_self, List.filterMap_append]
  simp [Component.ofPiece?_nil]

lemma components_slashed {p : Path} (hp : p.bytes ≠ []) (count : Nat) :
    (p.slashed count).components = p.components := by
  induction count with
  | zero => rw [slashed, List.replicate_zero, List.append_nil]
  | succ count ih =>
    have hne : p.bytes ++ List.replicate count slash ≠ [] := by simp [hp]
    rw [slashed, List.replicate_succ', ← List.append_assoc, components_slash hne]
    exact ih

lemma tooLong_slashed {p : Path} {count : Nat} (h : lengthLimit ≤ p.bytes.length + count) :
    (p.slashed count).tooLong = true := by
  rwa [tooLong, decide_eq_true_eq, slashed, List.length_append, List.length_replicate]

lemma tooLong_eq_of_lt {p q : Path} (hp : p.bytes.length < lengthLimit)
    (hq : q.bytes.length < lengthLimit) : p.tooLong = q.tooLong := by
  rw [tooLong, tooLong, decide_eq_false (Nat.not_le.2 hp), decide_eq_false (Nat.not_le.2 hq)]

/-! ## Stripping any root -/

/-- A path below the empty one is seen from there as it is. -/
lemma relativeTo?_ofNames (hns : ns ≠ []) : (ofNames ns).relativeTo? ⟨[]⟩ = some (ofNames ns) := by
  obtain ⟨n, rest, rfl⟩ := List.exists_cons_of_ne_nil hns
  have htrimmed : (ofNames (n :: rest)).relativeTo? ⟨[]⟩ = some (ofNames (n :: rest)).trimmed := by
    have hstarts : (ofNames (n :: rest)).startsWith ⟨[]⟩ = true := rfl
    have hnone : (⟨[]⟩ : Path).components = [] := rfl
    rw [relativeTo?, if_pos hstarts, if_pos hnone]
    rfl
  rw [htrimmed, ofNames_eq_descend]
  by_cases hrest : rest = []
  · subst hrest
    have hname : descend ⟨[]⟩ [n] = ⟨n.bytes⟩ := eq_of_bytes (by
      rw [descend_cons, descend_nil, child_bytes]
      rfl)
    have hpieces := trimEnd_names [] [n] (List.cons_ne_nil n [])
    rw [List.nil_append, List.map_singleton] at hpieces
    rw [hname, trimmed, bodyPieces_name, lead_name, hpieces, List.intercalate_singleton]
    rfl
  · rw [descend_cons, trimmed_descend (child_ne_nil _ n) hrest]

/-- **Stripping a root off the path of an entry always leaves the names that lead to it.** -/
theorem strip_descend (root : Path) (hns : ns ≠ []) :
    (root.descend ns).relativeTo? root = some (ofNames ns) := by
  by_cases hroot : root.bytes = []
  · obtain rfl : root = ⟨[]⟩ := eq_of_bytes hroot
    rw [← ofNames_eq_descend, relativeTo?_ofNames hns]
  · exact relativeTo?_descend hroot hns

end Path
end Reconcile
