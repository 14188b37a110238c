import Mathlib.Data.List.DropRight
import Reconcile.Proofs.Path.Parent

/-!
# Paths without blank pieces at their end

Nothing more is cut off a path that has been trimmed (`Path.trimmed_trimmed`), and what is left then
is the root, a `.`, the empty path, an entry of a directory, or a path that ends in `..`
(`Path.trimmed_kinds`).
-/

namespace Reconcile
namespace Path

variable {p q : Path}

lemma trimEnd_trimEnd (pieces : List Bytes) : trimEnd (trimEnd pieces) = trimEnd pieces :=
  List.rdropWhile_idempotent isBlank pieces

/-- The pieces of a trimmed path are those that have been left, if there are any. -/
lemma bodyPieces_trimmed (p : Path) :
    (lead p.trimmed.bytes).1 = (lead p.bytes).1 ∧
      trimEnd p.trimmed.bodyPieces = trimEnd p.bodyPieces := by
  obtain ⟨blanks, hpieces, -⟩ := exists_trimEnd p.bodyPieces
  have hlead : lead p.trimmed.bytes =
      ((lead p.bytes).1, [slash].intercalate (trimEnd p.bodyPieces)) :=
    lead_front hpieces
  refine ⟨by rw [hlead], ?_⟩
  rw [bodyPieces, hlead]
  by_cases hnil : trimEnd p.bodyPieces = []
  · rw [hnil]
    exact trimEnd_concat_nil []
  · have hslash : ∀ piece ∈ trimEnd p.bodyPieces, slash ∉ piece := by
      intro piece hmem
      refine sep_notMem_of_mem_splitOn (l := (lead p.bytes).2) ?_
      rw [← bodyPieces, hpieces]
      exact List.mem_append_left blanks hmem
    rw [List.splitOn_intercalate slash hslash hnil, trimEnd_trimEnd]

/-- Trimming is done once. -/
theorem trimmed_trimmed (p : Path) : p.trimmed.trimmed = p.trimmed := by
  obtain ⟨hlead, hpieces⟩ := bodyPieces_trimmed p
  rw [trimmed, hlead, hpieces, ← trimmed]

/-- A path is an entry if its text ends in the name. -/
lemma eq_child_of_bytes {front : Bytes} {n : Name} (hbytes : p.bytes = front ++ n.bytes)
    (hfront : front = [] ∨ ∃ t, front = t ++ [slash]) : p = child ⟨front⟩ n := by
  apply eq_of_bytes
  rw [child_bytes, hbytes, stem]
  rcases hfront with rfl | ⟨t, rfl⟩ <;> simp [endsInSlash]

/-- A trimmed path whose last piece is a name is an entry. -/
lemma exists_child_of_trimmed {n : Name} {front : List Bytes} (hp : p.trimmed = p)
    (hpieces : trimEnd p.bodyPieces = front ++ [n.bytes]) : ∃ q, p = child q n := by
  have hbytes : p.bytes =
      leadText (lead p.bytes).1 ++ [slash].intercalate (front ++ [n.bytes]) := by
    rw [← hpieces]
    exact (congrArg Path.bytes hp).symm
  by_cases hfront : front = []
  · subst hfront
    rw [List.nil_append, intercalate_cons, List.flatMap_nil, List.append_nil] at hbytes
    rcases lead_cases p.bytes with ⟨-, hl⟩ | ⟨rest, -, hl⟩ | ⟨rest, h, hrest, hl⟩ | ⟨-, -, -, hl⟩
    · rw [hl] at hbytes
      exact ⟨_, eq_child_of_bytes hbytes (Or.inl rfl)⟩
    · rw [hl] at hbytes
      exact ⟨_, eq_child_of_bytes hbytes (Or.inr ⟨[], rfl⟩)⟩
    · -- Behind the lead `.` there is a slash, so the name would not be the first piece.
      rw [hl] at hbytes
      rw [h] at hbytes
      obtain rfl : rest = n.bytes := (List.cons.inj hbytes).2
      rcases hrest with hnil | ⟨rest', hslash⟩
      · exact absurd hnil n.proper.1
      · exact absurd (by rw [hslash]; simp) n.proper.2.1
    · rw [hl] at hbytes
      exact ⟨_, eq_child_of_bytes hbytes (Or.inl rfl)⟩
  · rw [intercalate_append hfront, List.flatMap_singleton, ← List.append_assoc] at hbytes
    generalize leadText (lead p.bytes).1 ++ [slash].intercalate front = t at hbytes
    refine ⟨⟨t ++ [slash]⟩, eq_child_of_bytes ?_ (Or.inr ⟨t, rfl⟩)⟩
    rw [hbytes, List.append_assoc, List.singleton_append]

/-- What a trimmed path can be. -/
theorem trimmed_kinds (hp : p.trimmed = p) :
    p.bytes = [] ∨ p.bytes = [slash] ∨ p.bytes = [dot] ∨
      p.components.getLast? = some .up ∨ ∃ q n, p = child q n := by
  by_cases hnil : trimEnd p.bodyPieces = []
  · have hbytes : p.bytes = leadText (lead p.bytes).1 := by
      have htrim := congrArg Path.bytes hp
      rw [trimmed, hnil] at htrim
      simpa using htrim.symm
    rcases lead_cases p.bytes with ⟨h, -⟩ | ⟨rest, -, hl⟩ | ⟨rest, -, -, hl⟩ | ⟨-, -, -, hl⟩
    · exact Or.inl h
    · rw [hl] at hbytes
      exact Or.inr (Or.inl hbytes)
    · rw [hl] at hbytes
      exact Or.inr (Or.inr (Or.inl hbytes))
    · rw [hl] at hbytes
      exact Or.inl hbytes
  · have hlast := isBlank_getLast_trimEnd hnil
    have hsplit := (List.dropLast_concat_getLast hnil).symm
    generalize (trimEnd p.bodyPieces).getLast hnil = piece at hlast hsplit
    obtain ⟨c, hc⟩ := Option.ne_none_iff_exists'.1 (by simpa [isBlank] using hlast)
    have hcomponents : p.components.getLast? = some c := by
      rw [components, ← filterMap_trimEnd, hsplit, List.filterMap_append,
        List.filterMap_cons_some hc, ← List.append_assoc]
      exact List.getLast?_concat
    rw [Component.ofPiece?] at hc
    split at hc
    · rw [← Option.some.inj hc] at hcomponents
      exact Or.inr (Or.inr (Or.inr (Or.inl hcomponents)))
    split at hc
    · rename_i hproper
      obtain ⟨q, hq⟩ := exists_child_of_trimmed (n := ⟨piece, hproper⟩) hp hsplit
      exact Or.inr (Or.inr (Or.inr (Or.inr ⟨q, _, hq⟩)))
    · cases hc

/-- The parent of an entry is its directory, also if that is where relative paths start. -/
theorem parent?_entry (p : Path) (n : Name) : (p.child n).parent? = some p.trimmed := by
  by_cases hp : p.bytes = []
  · obtain rfl : p = ⟨[]⟩ := eq_of_bytes hp
    have hname : child ⟨[]⟩ n = ⟨n.bytes⟩ := eq_of_bytes (by rw [child_bytes]; rfl)
    have htrim : trimEnd [n.bytes] = [n.bytes] := trimEnd_names [] [n] (List.cons_ne_nil n [])
    rw [hname, parent?, bodyPieces_name, htrim, lead_name]
    rfl
  · exact parent?_child hp n

end Path
end Reconcile
