import Mathlib.Data.List.TakeWhile
import Reconcile.Proofs.Path.Names

/-!
# The path in front of an entry

The parent of an entry is the text of its directory without the pieces at the end that stand for
nothing, `Path.trimmed` (`Path.parent?_child`).  Only the root itself can have such pieces: the path
of a directory below it ends in a name (`Path.trimmed_descend`).
-/

namespace Reconcile
namespace Path

/-- The pieces at the end that stand for nothing are cut off, and no others. -/
lemma exists_trimEnd (pieces : List Bytes) :
    ∃ blanks, pieces = trimEnd pieces ++ blanks ∧ ∀ piece ∈ blanks, isBlank piece = true := by
  refine ⟨(pieces.reverse.takeWhile isBlank).reverse, ?_, ?_⟩
  · rw [trimEnd, ← List.reverse_append, List.takeWhile_append_dropWhile, List.reverse_reverse]
  · intro piece hmem
    exact List.mem_takeWhile_imp (List.mem_reverse.1 hmem)

lemma isBlank_getLast_trimEnd {pieces : List Bytes} (h : trimEnd pieces ≠ []) :
    isBlank ((trimEnd pieces).getLast h) = false := by
  have hne : pieces.reverse.dropWhile isBlank ≠ [] := by
    intro hnil
    exact h (by rw [trimEnd, hnil]; rfl)
  have hhead := List.head_dropWhile_not isBlank hne
  simpa [trimEnd, List.getLast_reverse] using hhead

lemma trimEnd_concat_nil (front : List Bytes) : trimEnd (front ++ [[]]) = trimEnd front := by
  simp [trimEnd, isBlank, Component.ofPiece?_nil]

/-- The path without the pieces at its end that stand for nothing. -/
def trimmed (p : Path) : Path :=
  ⟨leadText (lead p.bytes).1 ++ [slash].intercalate (trimEnd p.bodyPieces)⟩

/-- The parent of an entry is its directory, as far as it says something. -/
theorem parent?_child {p : Path} (hp : p.bytes ≠ []) (n : Name) :
    (p.child n).parent? = some p.trimmed := by
  obtain ⟨hlead, front, hfront, hcases, -⟩ := bodyPieces_child hp n
  have htrim : trimEnd p.bodyPieces = trimEnd front := by
    rcases hcases with h | h
    · rw [h]
    · rw [h, trimEnd_concat_nil]
  have hnames := trimEnd_names front [n] (by simp)
  rw [List.map_singleton] at hnames
  rw [parent?, hfront, hnames, trimmed, htrim, hlead]
  split
  · rename_i hnil
    simp at hnil
  · rename_i piece pieces heq
    rw [← heq, List.dropLast_concat]
    cases (lead p.bytes).1 <;> rfl

/-- The path of a directory below the root ends in a name. -/
theorem trimmed_descend {p : Path} (hp : p.bytes ≠ []) {ns : List Name} (hns : ns ≠ []) :
    (p.descend ns).trimmed = p.descend ns := by
  obtain ⟨-, front, hfront, -⟩ := bodyPieces_descend hp hns
  apply eq_of_bytes
  rw [trimmed, hfront, trimEnd_names front ns hns, ← hfront, bodyPieces, List.intercalate_splitOn]
  exact leadText_append _

lemma parent?_descend {p : Path} (hp : p.bytes ≠ []) {ns : List Name} (hns : ns ≠ []) (n : Name) :
    (p.descend (ns ++ [n])).parent? = some (p.descend ns) := by
  rw [descend_concat, parent?_child (descend_ne_nil hp ns), trimmed_descend hp hns]

lemma parent?_descend_ne_none {p : Path} (hp : p.bytes ≠ []) {ns : List Name} (hns : ns ≠ []) :
    (p.descend ns).parent? ≠ none := by
  rw [← List.dropLast_concat_getLast hns, descend_concat, parent?_child (descend_ne_nil hp _)]
  simp

lemma ancestors_go_cons (count : Nat) (p : Path) :
    ∃ above, ancestors.go count p = p :: above := by
  cases count with
  | zero => exact ⟨[], rfl⟩
  | succ count =>
    rw [ancestors.go]
    split
    · exact ⟨_, rfl⟩
    · exact ⟨[], rfl⟩

/-- The list of an entry below `p` and what is above it goes on with that of its directory, at least
down to `p`. -/
lemma ancestors_go_descend {p : Path} (hp : p.bytes ≠ []) {ns : List Name} (n : Name) {count : Nat}
    (hcount : ns.length ≤ count) :
    ∃ above, ancestors.go count (p.descend (ns ++ [n])) = p.descend (ns ++ [n]) :: above ∧
      (ns ≠ [] →
        ∃ count', ns.length ≤ count' + 1 ∧ above = ancestors.go count' (p.descend ns)) := by
  cases count with
  | zero =>
    refine ⟨[], rfl, fun hns => ?_⟩
    exact absurd (List.length_eq_zero_iff.1 (Nat.le_zero.1 hcount)) hns
  | succ count =>
    by_cases hns : ns = []
    · subst hns
      refine ⟨ancestors.go count p.trimmed, ?_, fun h => absurd rfl h⟩
      rw [List.nil_append, descend_cons, descend_nil, ancestors.go, parent?_child hp]
    · refine ⟨ancestors.go count (p.descend ns), ?_, fun _ => ⟨count, hcount, rfl⟩⟩
      rw [ancestors.go, parent?_descend hp hns]

/-- A piece that stands for nothing is empty or `.`. -/
def Blank (piece : Bytes) : Prop := isBlank piece = true ∧ slash ∉ piece

lemma Blank.eq {piece : Bytes} (h : Blank piece) : piece = [] ∨ piece = [dot] := by
  by_contra hne
  rw [not_or] at hne
  have hsome := isSome_ofPiece? hne.1 h.2 hne.2
  have hblank := h.1
  simp [isBlank] at hblank
  simp [hblank] at hsome

lemma endsInSlash_of_getLast {p : Path} {front : Bytes} {piece : Bytes} (hne : piece ≠ [])
    (hslash : slash ∉ piece) (hp : p.bytes = front ++ piece) : p.endsInSlash = false := by
  rw [endsInSlash, hp, List.getLast?_append, List.getLast?_eq_some_getLast hne]
  have hlast : piece.getLast hne ≠ slash := fun h => hslash (h ▸ List.getLast_mem hne)
  simpa using hlast

/-- If a piece of the path says something, blank pieces are cut off its end. -/
lemma trimmed_of_trimEnd_ne_nil {p : Path} (h : trimEnd p.bodyPieces ≠ []) :
    ∃ blanks : List Bytes, (∀ piece ∈ blanks, Blank piece) ∧
      p.bytes = p.trimmed.bytes ++ blanks.flatMap (slash :: ·) ∧
      p.trimmed.endsInSlash = false ∧ p.trimmed.bytes ≠ [] := by
  obtain ⟨blanks, hpieces, hblanks⟩ := exists_trimEnd p.bodyPieces
  have hslash : ∀ piece ∈ p.bodyPieces, slash ∉ piece :=
    fun piece hmem => sep_notMem_of_mem_splitOn hmem
  have hlast := isBlank_getLast_trimEnd h
  have hmem : ∀ piece ∈ trimEnd p.bodyPieces, piece ∈ p.bodyPieces := by
    intro piece hpiece
    rw [hpieces]
    exact List.mem_append_left _ hpiece
  have hne : (trimEnd p.bodyPieces).getLast h ≠ [] := by
    intro hnil
    rw [hnil] at hlast
    simp [isBlank, Component.ofPiece?_nil] at hlast
  -- The last piece that stays ends the path.
  obtain ⟨front, hfront⟩ : ∃ front, p.trimmed.bytes =
      front ++ (trimEnd p.bodyPieces).getLast h := by
    rw [trimmed]
    by_cases hdrop : (trimEnd p.bodyPieces).dropLast = []
    · refine ⟨leadText (lead p.bytes).1, ?_⟩
      conv_lhs =>
        rw [← List.dropLast_concat_getLast h, hdrop, List.nil_append, List.intercalate_singleton]
    · refine ⟨leadText (lead p.bytes).1 ++
        [slash].intercalate (trimEnd p.bodyPieces).dropLast ++ [slash], ?_⟩
      conv_lhs => rw [← List.dropLast_concat_getLast h, intercalate_append hdrop]
      simp
  refine ⟨blanks, fun piece hpiece => ⟨hblanks piece hpiece, hslash piece ?_⟩, ?_,
    endsInSlash_of_getLast hne (hslash _ (hmem _ (List.getLast_mem h))) hfront, ?_⟩
  · rw [hpieces]
    exact List.mem_append_right _ hpiece
  · rw [trimmed, List.append_assoc, ← intercalate_append h, ← hpieces, bodyPieces,
      List.intercalate_splitOn]
    exact (leadText_append p.bytes).symm
  · rw [hfront]
    exact fun hnil => hne (List.append_eq_nil_iff.1 hnil).2

/-- What is cut off a path are blank pieces; if nothing else is left, it is the root. -/
theorem trimmed_cases {p : Path} (hp : p.bytes ≠ []) :
    ∃ blanks : List Bytes, (∀ piece ∈ blanks, Blank piece) ∧
      ((p.bytes = p.trimmed.bytes ++ blanks.flatMap (slash :: ·) ∧
          p.trimmed.endsInSlash = false ∧ p.trimmed.bytes ≠ []) ∨
        (p.bytes = slash :: [slash].intercalate blanks ∧ p.trimmed.bytes = [slash])) := by
  by_cases h : trimEnd p.bodyPieces = []
  · obtain ⟨blanks, hpieces, hblanks⟩ := exists_trimEnd p.bodyPieces
    rw [h, List.nil_append] at hpieces
    have hblank : ∀ piece ∈ (lead p.bytes).2.splitOn slash, Blank piece := fun piece hmem =>
      ⟨hblanks piece (hpieces ▸ hmem), sep_notMem_of_mem_splitOn hmem⟩
    rw [trimmed, h]
    rcases lead_cases p.bytes with ⟨hnil, -⟩ | ⟨rest, hbytes, hl⟩ | ⟨rest, hbytes, hrest, hl⟩ |
      ⟨-, -, -, hl⟩
    · exact absurd hnil hp
    · rw [hl] at hblank ⊢
      refine ⟨_, hblank, Or.inr ⟨?_, rfl⟩⟩
      rw [List.intercalate_splitOn, hbytes]
    · rw [hl] at hblank ⊢
      rcases hrest with rfl | ⟨rest', rfl⟩
      · exact ⟨[], by simp, Or.inl ⟨by simp [hbytes, leadText, Component.bytes],
          rfl, by simp [leadText, Component.bytes]⟩⟩
      · rw [splitOn_cons_self] at hblank
        refine ⟨rest'.splitOn slash, fun piece hmem => hblank piece (List.mem_cons_of_mem _ hmem),
          Or.inl ⟨?_, rfl, by simp [leadText, Component.bytes]⟩⟩
        have hjoin : [slash].intercalate ((slash :: rest').splitOn slash) = slash :: rest' :=
          List.intercalate_splitOn slash
        rw [splitOn_cons_self, intercalate_cons, List.nil_append] at hjoin
        rw [hjoin, hbytes]
        rfl
    · exfalso
      refine components_ne_nil hp ?_
      rw [components, hl, bodyPieces, Option.toList_none, List.nil_append,
        List.filterMap_eq_nil_iff]
      intro piece hmem
      simpa [isBlank] using (hblank piece hmem).1
  · obtain ⟨blanks, hblanks, hcases⟩ := trimmed_of_trimEnd_ne_nil h
    exact ⟨blanks, hblanks, Or.inl hcases⟩

/-! ## Components -/

/-- What is left of a path when pieces at its end are cut off has the same lead. -/
lemma lead_front {p : Path} {front rest : List Bytes} (h : p.bodyPieces = front ++ rest) :
    lead (leadText (lead p.bytes).1 ++ [slash].intercalate front) =
      ((lead p.bytes).1, [slash].intercalate front) := by
  have hbody : [slash].intercalate (front ++ rest) = (lead p.bytes).2 := by
    rw [← h, bodyPieces, List.intercalate_splitOn]
  have hbytes := leadText_append p.bytes
  rw [← hbody] at hbytes
  by_cases hfront : front = []
  · subst hfront
    rcases lead_cases p.bytes with ⟨-, hl⟩ | ⟨r, -, hl⟩ | ⟨r, -, -, hl⟩ | ⟨-, -, -, hl⟩ <;>
      rw [hl] <;> rfl
  by_cases hrest : rest = []
  · subst hrest
    rw [List.append_nil] at hbody hbytes
    rw [hbytes]
    exact Prod.ext rfl hbody.symm
  · -- Something was cut off behind a slash, and the lead is not affected by that.
    obtain ⟨piece, pieces, rfl⟩ := List.exists_cons_of_ne_nil hrest
    rw [intercalate_append hfront, List.flatMap_cons, List.cons_append,
      ← List.append_assoc] at hbytes
    generalize ht : leadText (lead p.bytes).1 ++ [slash].intercalate front = t at hbytes
    have hne : t ≠ [] := by
      rintro rfl
      rw [List.nil_append] at hbytes
      rw [← hbytes] at ht
      simp [lead, leadText, Component.bytes] at ht
    have hlead := lead_append_slash hne (piece ++ pieces.flatMap (slash :: ·))
    rw [hbytes] at hlead
    have hfirst : (lead t).1 = (lead p.bytes).1 := by rw [hlead]
    have htext := leadText_append t
    rw [hfirst, ← ht] at htext
    rw [← ht]
    exact Prod.ext (by rw [ht, hfirst]) (List.append_cancel_left htext)

lemma components_front {p : Path} {front rest : List Bytes} (h : p.bodyPieces = front ++ rest) :
    (⟨leadText (lead p.bytes).1 ++ [slash].intercalate front⟩ : Path).components =
      (lead p.bytes).1.toList ++ front.filterMap Component.ofPiece? := by
  rw [components, bodyPieces, lead_front h]
  by_cases hfront : front = []
  · subst hfront
    simp [Component.ofPiece?_nil]
  · rw [List.splitOn_intercalate slash ?_ hfront]
    intro piece hmem
    refine sep_notMem_of_mem_splitOn (l := (lead p.bytes).2) ?_
    rw [← bodyPieces, h]
    exact List.mem_append_left rest hmem

/-- Pieces that stand for nothing are no components. -/
lemma filterMap_trimEnd (pieces : List Bytes) :
    (trimEnd pieces).filterMap Component.ofPiece? = pieces.filterMap Component.ofPiece? := by
  obtain ⟨blanks, hpieces, hblanks⟩ := exists_trimEnd pieces
  have hnone : blanks.filterMap Component.ofPiece? = [] := by
    rw [List.filterMap_eq_nil_iff]
    intro piece hmem
    simpa [isBlank] using hblanks piece hmem
  conv_rhs => rw [hpieces, List.filterMap_append, hnone, List.append_nil]

/-- The parent of a path has all of its components but the last. -/
theorem components_of_parent? {p q : Path} (h : p.parent? = some q) :
    ∃ c, p.components = q.components ++ [c] := by
  have hcomponents : p.components =
      (lead p.bytes).1.toList ++ (trimEnd p.bodyPieces).filterMap Component.ofPiece? := by
    rw [filterMap_trimEnd, components]
  rw [parent?] at h
  split at h
  · rename_i hnil
    -- Only a `.` in front of nothing has a parent, the empty path.
    rw [hnil] at hcomponents
    cases hlead : (lead p.bytes).1 with
    | none => simp [hlead] at h
    | some c =>
      cases c <;> simp only [hlead, Option.some.injEq, reduceCtorEq] at h
      subst h
      exact ⟨.here, by rw [hcomponents, hlead]; rfl⟩
  · rename_i piece pieces hpieces
    have hne : trimEnd p.bodyPieces ≠ [] := by simp [hpieces]
    have hq : q = ⟨leadText (lead p.bytes).1 ++
        [slash].intercalate (trimEnd (trimEnd p.bodyPieces).dropLast)⟩ := by
      rw [← hpieces] at h
      cases hlead : (lead p.bytes).1 <;> simp only [hlead, Option.some.injEq] at h <;>
        rw [← h] <;> rfl
    have hlast := isBlank_getLast_trimEnd hne
    obtain ⟨c, hc⟩ := Option.ne_none_iff_exists'.1 (by simpa [isBlank] using hlast)
    have hsplit := List.dropLast_concat_getLast hne
    -- The pieces of the parent stand in front of the last component and what is blank.
    obtain ⟨rest, hrest⟩ : ∃ rest,
        p.bodyPieces = trimEnd (trimEnd p.bodyPieces).dropLast ++ rest := by
      obtain ⟨blanks, hblanks, -⟩ := exists_trimEnd p.bodyPieces
      obtain ⟨blanks', hblanks', -⟩ := exists_trimEnd (trimEnd p.bodyPieces).dropLast
      refine ⟨blanks' ++ ([(trimEnd p.bodyPieces).getLast hne] ++ blanks), ?_⟩
      rw [← List.append_assoc, ← hblanks', ← List.append_assoc, hsplit, ← hblanks]
    refine ⟨c, ?_⟩
    rw [hq, components_front hrest, filterMap_trimEnd, hcomponents, List.append_assoc]
    conv_lhs => rw [← hsplit, List.filterMap_append, List.filterMap_cons_some hc]
    rfl

end Path
end Reconcile
