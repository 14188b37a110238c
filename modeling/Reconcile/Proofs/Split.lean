import Mathlib.Data.List.Induction

/-!
# Stretches of a text

The stretches of a text are what stands between its separators, `List.splitOn sep l`.  There is
always a first one, and each of the others stands behind a separator (`exists_splitOn`).

`EndsIn sep l prior last` says what the last two stretches are: what stands behind the last
separator, and between it and the separator before.  Every text can be taken apart there
(`exists_endsIn`), and in one way only (`EndsIn.unique`).
-/

namespace Reconcile

section Stretches

variable {α : Type} {sep a : α} {l piece : List α} {pieces front : List (List α)}

lemma intercalate_cons (piece : List α) (pieces : List (List α)) :
    [sep].intercalate (piece :: pieces) = piece ++ pieces.flatMap (sep :: ·) := by
  induction pieces generalizing piece with
  | nil => simp
  | cons piece' rest ih => simp [List.intercalate_cons_cons, ih piece']

lemma intercalate_append (hfront : front ≠ []) (pieces : List (List α)) :
    [sep].intercalate (front ++ pieces) =
      [sep].intercalate front ++ pieces.flatMap (sep :: ·) := by
  obtain ⟨piece, rest, rfl⟩ := List.exists_cons_of_ne_nil hfront
  rw [List.cons_append, intercalate_cons, intercalate_cons, List.flatMap_append,
    List.append_assoc]

variable [BEq α] [LawfulBEq α]

@[simp] lemma splitOn_cons_self (l : List α) : (sep :: l).splitOn sep = [] :: l.splitOn sep :=
  List.splitOn_append_cons_self [] l

/-- A text is its first stretch, and all others behind separators. -/
lemma exists_splitOn (sep : α) (l : List α) :
    ∃ piece pieces, l.splitOn sep = piece :: pieces ∧ l = piece ++ pieces.flatMap (sep :: ·) := by
  obtain ⟨piece, pieces, hsplit⟩ := List.exists_cons_of_ne_nil (List.splitOn_ne_nil sep l)
  have hl : [sep].intercalate (l.splitOn sep) = l := List.intercalate_splitOn sep
  rw [hsplit, intercalate_cons] at hl
  exact ⟨piece, pieces, hsplit, hl.symm⟩

lemma sep_notMem_of_mem_splitOn (h : piece ∈ l.splitOn sep) : sep ∉ piece := by
  induction l generalizing piece with
  | nil => simp_all
  | cons a l ih =>
    rw [List.splitOn_cons_eq_if_modifyHead] at h
    split at h
    · rcases List.mem_cons.1 h with rfl | h
      · exact List.not_mem_nil
      · exact ih h
    · rename_i hne
      obtain ⟨first, rest, hsplit, -⟩ := exists_splitOn sep l
      rw [hsplit] at h ih
      rcases List.mem_cons.1 h with rfl | h
      · rw [List.mem_cons, not_or]
        exact ⟨fun heq => hne (beq_iff_eq.2 heq.symm), ih List.mem_cons_self⟩
      · exact ih (List.mem_cons_of_mem _ h)

/-- What does not separate is in one of the stretches. -/
lemma exists_mem_splitOn (hne : a ≠ sep) : (∃ piece ∈ l.splitOn sep, a ∈ piece) ↔ a ∈ l := by
  obtain ⟨piece, pieces, hsplit, hl⟩ := exists_splitOn sep l
  rw [hsplit, hl]
  simp [hne]

/-- A text that does not begin with a separator begins with a stretch. -/
lemma splitOn_cons_of_ne (h : a ≠ sep) (l : List α) :
    ∃ piece rest, (a :: l).splitOn sep = (a :: piece) :: rest ∧
      (piece = [] → l = [] ∨ l.head? = some sep) := by
  obtain ⟨piece, rest, hsplit, hl⟩ := exists_splitOn sep l
  refine ⟨piece, rest, by simp [List.splitOn_cons_eq_if_modifyHead, h, hsplit], ?_⟩
  rintro rfl
  cases rest with
  | nil => exact Or.inl hl
  | cons piece rest => exact Or.inr (by simp [hl])

lemma splitOn_append_flatMap (h : ∀ piece ∈ pieces, sep ∉ piece) (l : List α) :
    (l ++ pieces.flatMap (sep :: ·)).splitOn sep = l.splitOn sep ++ pieces := by
  induction pieces using List.reverseRecOn with
  | nil => simp
  | append_singleton pieces piece ih =>
    have hpiece : piece.splitOn sep = [piece] := List.splitOn_eq_singleton (h piece (by simp))
    rw [List.flatMap_append, List.flatMap_singleton, ← List.append_assoc,
      List.splitOn_append_cons_self, ih fun piece' hmem => h piece' (List.mem_append_left _ hmem),
      hpiece, List.append_assoc]

/-- A piece without separators that is put in front goes to the first stretch. -/
lemma splitOn_append_of_notMem (h : sep ∉ piece) (l : List α) :
    (piece ++ l).splitOn sep = (l.splitOn sep).modifyHead (piece ++ ·) := by
  obtain ⟨first, rest, hsplit, hl⟩ := exists_splitOn sep l
  have hnone : ∀ piece' ∈ first :: rest, sep ∉ piece' := by
    rw [← hsplit]
    exact fun piece' hmem => sep_notMem_of_mem_splitOn hmem
  have hfirst : sep ∉ piece ++ first := by
    rw [List.mem_append]
    exact fun hmem => hmem.elim h (hnone first List.mem_cons_self)
  rw [hsplit, List.modifyHead_cons, hl, ← List.append_assoc,
    splitOn_append_flatMap fun piece' hmem => hnone piece' (List.mem_cons_of_mem _ hmem),
    List.splitOn_eq_singleton hfirst, List.singleton_append]

end Stretches

/-- `last` is what stands behind the last separator of a text, and `prior` the stretch in front of
it.  A text without a separator is one stretch with nothing in front of it. -/
inductive EndsIn {α : Type} (sep : α) : (l prior last : List α) → Prop
  | single {last : List α} : sep ∉ last → EndsIn sep last [] last
  | second {prior last : List α} : sep ∉ prior → sep ∉ last →
      EndsIn sep (prior ++ sep :: last) prior last
  | further {front prior last : List α} : sep ∉ prior → sep ∉ last →
      EndsIn sep (front ++ sep :: (prior ++ sep :: last)) prior last

variable {α : Type} {sep : α} {l prior last prior' last' tail : List α}

/-! ## Where a text is taken apart -/

/-- A text without a separator is all one stretch; any other is cut at its last separator. -/
lemma last_separator_cases [DecidableEq α] (sep : α) (l : List α) :
    sep ∉ l ∨ ∃ front last, l = front ++ sep :: last ∧ sep ∉ last := by
  by_cases hmem : sep ∈ l
  · right
    obtain ⟨behind, front, hreverse, hbehind⟩ :=
      List.eq_append_cons_of_mem (List.mem_reverse.2 hmem)
    refine ⟨front.reverse, behind.reverse, ?_, by simpa using hbehind⟩
    rw [← List.reverse_reverse l, hreverse]
    simp
  · exact Or.inl hmem

theorem exists_endsIn [DecidableEq α] (sep : α) (l : List α) :
    ∃ prior last, EndsIn sep l prior last := by
  rcases last_separator_cases sep l with hnone | ⟨front, last, rfl, hlast⟩
  · exact ⟨[], l, .single hnone⟩
  rcases last_separator_cases sep front with hnone | ⟨front, prior, rfl, hprior⟩
  · exact ⟨front, last, .second hnone hlast⟩
  · refine ⟨prior, last, ?_⟩
    rw [List.append_assoc, List.cons_append]
    exact .further hprior hlast

namespace EndsIn

/-! ## The stretches -/

lemma sep_notMem_prior (h : EndsIn sep l prior last) : sep ∉ prior := by
  cases h with
  | single => exact List.not_mem_nil
  | second hprior => exact hprior
  | further hprior => exact hprior

lemma sep_notMem_last (h : EndsIn sep l prior last) : sep ∉ last := by
  cases h with
  | single hlast => exact hlast
  | second _ hlast => exact hlast
  | further _ hlast => exact hlast

lemma isSuffix (h : EndsIn sep l prior last) : last <:+ l := by
  cases h with
  | single => exact List.suffix_rfl
  | second => exact ⟨prior ++ [sep], by simp⟩
  | @further front => exact ⟨front ++ sep :: (prior ++ [sep]), by simp⟩

/-- The two are the last stretches between separators. -/
lemma headD_splitOn [BEq α] [LawfulBEq α] (h : EndsIn sep l prior last) :
    (l.splitOn sep).reverse.headD [] = last ∧
      ((l.splitOn sep).reverse.drop 1).headD [] = prior := by
  cases h with
  | single hlast => simp [List.splitOn_eq_singleton hlast]
  | second hprior hlast =>
    simp [List.splitOn_append_cons_self, List.splitOn_eq_singleton hprior,
      List.splitOn_eq_singleton hlast]
  | further hprior hlast =>
    simp [List.splitOn_append_cons_self, List.splitOn_eq_singleton hprior,
      List.splitOn_eq_singleton hlast]

theorem unique [BEq α] [LawfulBEq α] (h : EndsIn sep l prior last) (h' : EndsIn sep l prior' last') :
    prior = prior' ∧ last = last' :=
  ⟨h.headD_splitOn.2.symm.trans h'.headD_splitOn.2,
    h.headD_splitOn.1.symm.trans h'.headD_splitOn.1⟩

/-- More text without a separator goes to the last stretch. -/
theorem append (h : EndsIn sep l prior last) (htail : sep ∉ tail) :
    EndsIn sep (l ++ tail) prior (last ++ tail) := by
  have hlast : sep ∉ last ++ tail := by
    rw [List.mem_append]
    exact fun hmem => hmem.elim h.sep_notMem_last htail
  cases h with
  | single => exact .single hlast
  | second hprior =>
    rw [List.append_assoc, List.cons_append]
    exact .second hprior hlast
  | further hprior =>
    simp only [List.append_assoc, List.cons_append]
    exact .further hprior hlast

end EndsIn
end Reconcile
