import Reconcile.Path.Basic
import Reconcile.Proofs.Split

/-!
# Paths through names

A walk goes down from a root one name at a time, `Path.descend root ns`, and reports what it finds
by the text `n₁/…/nₖ` of the names alone, `Path.ofNames ns`.  However the root is spelled, these
two determine each other: `Path.relativeTo?_descend` strips the root off again and
`Path.join_ofNames` puts it back, both byte for byte.
-/

namespace Reconcile
namespace Path

/-- The relative path that goes through the names `ns`. -/
def ofNames (ns : List Name) : Path := ⟨[slash].intercalate (ns.map Name.bytes)⟩

/-- The path of the entry that is reached from `p` through the names `ns`. -/
def descend (p : Path) (ns : List Name) : Path := ns.foldl child p

@[simp] lemma descend_nil (p : Path) : p.descend [] = p := rfl

@[simp] lemma descend_cons (p : Path) (n : Name) (ns : List Name) :
    p.descend (n :: ns) = (p.child n).descend ns := rfl

lemma descend_append (p : Path) (ms ns : List Name) :
    p.descend (ms ++ ns) = (p.descend ms).descend ns := List.foldl_append

lemma descend_concat (p : Path) (ns : List Name) (n : Name) :
    p.descend (ns ++ [n]) = (p.descend ns).child n := descend_append p ns [n]

/-! ## The text of an entry -/

lemma getLast?_name (n : Name) : n.bytes.getLast? ≠ some slash :=
  fun h => n.proper.2.1 (List.mem_of_getLast? h)

lemma head?_name (n : Name) : n.bytes.head? ≠ some slash :=
  fun h => n.proper.2.1 (List.mem_of_head? h)

/-- What `join` puts in front of a relative path. -/
def stem (p : Path) : Bytes :=
  if p.bytes = [] || p.endsInSlash then p.bytes else p.bytes ++ [slash]

lemma join_bytes {p q : Path} (hq : q.isAbsolute = false) :
    (p.join q).bytes = p.stem ++ q.bytes := by
  simp only [join, stem, hq, Bool.false_eq_true, if_false]
  split <;> simp

lemma child_bytes (p : Path) (n : Name) : (p.child n).bytes = p.stem ++ n.bytes :=
  join_bytes (by simpa [isAbsolute] using head?_name n)

lemma stem_of_endsInSlash {p : Path} (h : p.endsInSlash = true) : p.stem = p.bytes := by
  simp [stem, h]

lemma stem_of_not_endsInSlash {p : Path} (hp : p.bytes ≠ []) (h : p.endsInSlash = false) :
    p.stem = p.bytes ++ [slash] := by
  simp [stem, h, hp]

lemma child_ne_nil (p : Path) (n : Name) : (p.child n).bytes ≠ [] := by
  rw [child_bytes]
  intro h
  exact n.proper.1 (List.append_eq_nil_iff.1 h).2

lemma endsInSlash_child (p : Path) (n : Name) : (p.child n).endsInSlash = false := by
  have hlast := getLast?_name n
  obtain ⟨b, rest, hb⟩ := List.exists_cons_of_ne_nil n.proper.1
  rw [endsInSlash, child_bytes]
  rw [hb] at hlast ⊢
  simpa [List.getLast?_append, List.getLast?_cons_cons] using hlast

lemma descend_ne_nil {p : Path} (hp : p.bytes ≠ []) (ns : List Name) :
    (p.descend ns).bytes ≠ [] := by
  induction ns generalizing p with
  | nil => exact hp
  | cons n ns ih => exact ih (child_ne_nil p n)

lemma endsInSlash_descend (p : Path) {ns : List Name} (hns : ns ≠ []) :
    (p.descend ns).endsInSlash = false := by
  rw [← List.dropLast_concat_getLast hns, descend_concat]
  exact endsInSlash_child _ _

lemma length_lt_child (p : Path) (n : Name) : p.bytes.length < (p.child n).bytes.length := by
  have hn : 0 < n.bytes.length := List.length_pos_iff.2 n.proper.1
  have hstem : p.bytes.length ≤ p.stem.length := by
    rw [stem]
    split
    · exact Nat.le_refl _
    · simp
  rw [child_bytes, List.length_append]
  omega

lemma length_le_descend (p : Path) (ns : List Name) :
    p.bytes.length ≤ (p.descend ns).bytes.length := by
  induction ns generalizing p with
  | nil => exact Nat.le_refl _
  | cons n ns ih => exact Nat.le_trans (Nat.le_of_lt (length_lt_child p n)) (ih (p.child n))

lemma descend_bytes {p : Path} (hp : p.bytes ≠ []) (hend : p.endsInSlash = false)
    (ns : List Name) :
    (p.descend ns).bytes = p.bytes ++ ns.flatMap fun n => slash :: n.bytes := by
  induction ns generalizing p with
  | nil => simp
  | cons n ns ih =>
    rw [descend_cons, ih (child_ne_nil p n) (endsInSlash_child p n), child_bytes,
      stem_of_not_endsInSlash hp hend]
    simp

/-! ## The text of the names -/

lemma ofNames_cons_bytes (n : Name) (ns : List Name) :
    (ofNames (n :: ns)).bytes = n.bytes ++ ns.flatMap fun m => slash :: m.bytes := by
  rw [ofNames, List.map_cons, intercalate_cons, List.flatMap_map]

lemma eq_of_bytes {p q : Path} (h : p.bytes = q.bytes) : p = q := by
  cases p; cases q; simp_all

lemma isAbsolute_ofNames (ns : List Name) : (ofNames ns).isAbsolute = false := by
  cases ns with
  | nil => rfl
  | cons n ns =>
    have hhead := head?_name n
    obtain ⟨b, rest, hb⟩ := List.exists_cons_of_ne_nil n.proper.1
    rw [isAbsolute, ofNames_cons_bytes]
    rw [hb] at hhead ⊢
    simpa using hhead

/-- The names below `p` are put behind it byte for byte, however `p` is spelled. -/
theorem join_ofNames (p : Path) {ns : List Name} (hns : ns ≠ []) :
    p.join (ofNames ns) = p.descend ns := by
  obtain ⟨n, ns, rfl⟩ := List.exists_cons_of_ne_nil hns
  apply eq_of_bytes
  rw [join_bytes (isAbsolute_ofNames _), descend_cons,
    descend_bytes (child_ne_nil p n) (endsInSlash_child p n), child_bytes, ofNames_cons_bytes,
    List.append_assoc]

lemma ofNames_eq_descend (ns : List Name) : ofNames ns = descend ⟨[]⟩ ns := by
  cases ns with
  | nil => rfl
  | cons n ns =>
    rw [← join_ofNames _ (List.cons_ne_nil n ns)]
    apply eq_of_bytes
    rw [join_bytes (isAbsolute_ofNames _)]
    rfl

/-! ## Components -/

/-- How the text of a path begins. -/
lemma lead_cases (bytes : Bytes) :
    (bytes = [] ∧ lead bytes = (none, [])) ∨
      (∃ rest, bytes = slash :: rest ∧ lead bytes = (some .root, rest)) ∨
      (∃ rest, bytes = dot :: rest ∧ (rest = [] ∨ ∃ rest', rest = slash :: rest') ∧
        lead bytes = (some .here, rest)) ∨
      (bytes ≠ [] ∧ bytes.head? ≠ some slash ∧ startsHere bytes = false ∧
        lead bytes = (none, bytes)) := by
  cases bytes with
  | nil => exact Or.inl ⟨rfl, rfl⟩
  | cons b rest =>
    by_cases hb : b = slash
    · exact Or.inr (Or.inl ⟨rest, by rw [hb], by simp [lead, hb]⟩)
    · cases hstarts : startsHere (b :: rest) with
      | false =>
        exact Or.inr (Or.inr (Or.inr
          ⟨by simp, by simpa using hb, rfl, by simp [lead, hb, hstarts]⟩))
      | true =>
        have hlead : lead (b :: rest) = (some .here, rest) := by simp [lead, hb, hstarts]
        cases rest with
        | nil =>
          have hdot : b = dot := by simpa [startsHere] using hstarts
          exact Or.inr (Or.inr (Or.inl ⟨[], by rw [hdot], Or.inl rfl, hlead⟩))
        | cons c rest =>
          have hdot : b = dot ∧ c = slash := by simpa [startsHere] using hstarts
          exact Or.inr (Or.inr (Or.inl
            ⟨c :: rest, by rw [hdot.1], Or.inr ⟨rest, by rw [hdot.2]⟩, hlead⟩))

/-- The text of a lead. -/
def leadText (lead : Option Component) : Bytes :=
  match lead with
  | some c => c.bytes
  | none => []

lemma leadText_append (bytes : Bytes) : leadText (lead bytes).1 ++ (lead bytes).2 = bytes := by
  rcases lead_cases bytes with ⟨h, hl⟩ | ⟨rest, h, hl⟩ | ⟨rest, h, -, hl⟩ | ⟨-, -, -, hl⟩
  · rw [hl, h]
    rfl
  · rw [hl, h]
    rfl
  · rw [hl, h]
    rfl
  · rw [hl]
    rfl

/-- The lead of a text does not change when a slash and more are put behind it. -/
lemma lead_append_slash {t : Bytes} (ht : t ≠ []) (rest : Bytes) :
    lead (t ++ slash :: rest) = ((lead t).1, (lead t).2 ++ slash :: rest) := by
  have hstarts : startsHere (t ++ slash :: rest) = startsHere t := by
    match t, ht with
    | [b], _ => simp [startsHere]
    | b :: c :: t, _ => rfl
  obtain ⟨b, t, rfl⟩ := List.exists_cons_of_ne_nil ht
  simp only [List.cons_append] at hstarts ⊢
  simp only [lead, hstarts]
  split
  · rfl
  · split <;> rfl

lemma filterMap_ofPiece?_names (ns : List Name) :
    (ns.map Name.bytes).filterMap Component.ofPiece? = ns.map Component.name := by
  induction ns with
  | nil => rfl
  | cons n ns ih => simp [Component.ofPiece?_name, ih]

/-- The pieces of an entry are those of its directory, up to an empty one at the end, and the
name. -/
lemma bodyPieces_child {p : Path} (hp : p.bytes ≠ []) (n : Name) :
    (lead (p.child n).bytes).1 = (lead p.bytes).1 ∧
      ∃ front, (p.child n).bodyPieces = front ++ [n.bytes] ∧
        (p.bodyPieces = front ∨ p.bodyPieces = front ++ [[]]) ∧
        (p.endsInSlash = false → p.bodyPieces = front) := by
  have hn : n.bytes.splitOn slash = [n.bytes] := List.splitOn_eq_singleton n.proper.2.1
  -- A slash at the end of the directory leaves an empty piece, which the name takes over.
  cases hend : p.endsInSlash with
  | false =>
    have hchild : (p.child n).bytes = p.bytes ++ slash :: n.bytes := by
      rw [child_bytes, stem_of_not_endsInSlash hp hend]
      simp
    rw [bodyPieces, hchild, lead_append_slash hp]
    refine ⟨rfl, p.bodyPieces, ?_, Or.inl rfl, fun _ => rfl⟩
    rw [List.splitOn_append_cons_self, hn, bodyPieces]
  | true =>
    have hlast : p.bytes.getLast? = some slash := by simpa [endsInSlash] using hend
    obtain ⟨t, ht⟩ := List.getLast?_eq_some_iff.1 hlast
    have hchild : (p.child n).bytes = t ++ slash :: n.bytes := by
      rw [child_bytes, stem_of_endsInSlash hend, ht]
      simp
    -- Nothing but the slash is the root itself, whose slash is the lead.
    by_cases htn : t = []
    · subst htn
      have hp : p.bytes = [slash] := ht
      refine ⟨by rw [hchild, hp]; rfl, [], ?_, Or.inr ?_, by simp⟩
      · rw [bodyPieces, hchild]
        exact hn
      · rw [bodyPieces, hp]
        rfl
    · rw [bodyPieces, bodyPieces, hchild, ht, lead_append_slash htn, lead_append_slash htn]
      refine ⟨rfl, (lead t).2.splitOn slash, ?_, Or.inr ?_, by simp⟩
      · rw [List.splitOn_append_cons_self, hn]
      · rw [List.splitOn_append_cons_self]
        rfl

/-- The pieces of what is below a directory end in the names that lead there; in front of them
stand pieces with the same components as those of the directory. -/
lemma bodyPieces_descend {p : Path} (hp : p.bytes ≠ []) {ns : List Name} (hns : ns ≠ []) :
    (lead (p.descend ns).bytes).1 = (lead p.bytes).1 ∧
      ∃ front, (p.descend ns).bodyPieces = front ++ ns.map Name.bytes ∧
        (p.bodyPieces = front ∨ p.bodyPieces = front ++ [[]]) := by
  induction ns using List.reverseRecOn with
  | nil => exact absurd rfl hns
  | append_singleton ns n ih =>
    rw [descend_concat]
    obtain ⟨hlead, front, hfront, hcases, hopen⟩ := bodyPieces_child (descend_ne_nil hp ns) n
    by_cases hnil : ns = []
    · subst hnil
      exact ⟨hlead, front, by simpa using hfront, hcases⟩
    · obtain ⟨hlead', front', hfront', hcases'⟩ := ih hnil
      refine ⟨hlead.trans hlead', front', ?_, hcases'⟩
      rw [hfront, ← hopen (endsInSlash_descend p hnil), hfront']
      simp

theorem components_descend {p : Path} (hp : p.bytes ≠ []) (ns : List Name) :
    (p.descend ns).components = p.components ++ ns.map Component.name := by
  by_cases hns : ns = []
  · subst hns
    simp
  · obtain ⟨hlead, front, hfront, hcases⟩ := bodyPieces_descend hp hns
    have hblank : p.bodyPieces.filterMap Component.ofPiece? =
        front.filterMap Component.ofPiece? := by
      rcases hcases with h | h
      · rw [h]
      · simp [h, Component.ofPiece?_nil]
    rw [components, components, hlead, hfront, hblank, List.filterMap_append,
      filterMap_ofPiece?_names, List.append_assoc]

/-- A name by itself has no lead. -/
lemma lead_name (n : Name) : lead n.bytes = (none, n.bytes) := by
  have hhead := head?_name n
  rcases lead_cases n.bytes with ⟨h, -⟩ | ⟨rest, h, -⟩ | ⟨rest, h, hrest, -⟩ | ⟨-, -, -, hl⟩
  · exact absurd h n.proper.1
  · exact absurd (by rw [h]; rfl) hhead
  · rcases hrest with rfl | ⟨rest', rfl⟩
    · exact absurd h n.proper.2.2.1
    · exact absurd (by rw [h]; simp) n.proper.2.1
  · exact hl

lemma bodyPieces_name (n : Name) : (⟨n.bytes⟩ : Path).bodyPieces = [n.bytes] := by
  rw [bodyPieces, lead_name]
  exact List.splitOn_eq_singleton n.proper.2.1

lemma components_name (n : Name) : (⟨n.bytes⟩ : Path).components = [.name n] := by
  rw [components, bodyPieces_name, lead_name]
  simp [Component.ofPiece?_name]

theorem components_ofNames (ns : List Name) :
    (ofNames ns).components = ns.map Component.name := by
  cases ns with
  | nil => rfl
  | cons n ns =>
    rw [ofNames_eq_descend, descend_cons, components_descend (child_ne_nil _ n)]
    have : (⟨[]⟩ : Path).child n = ⟨n.bytes⟩ := eq_of_bytes (by rw [child_bytes]; rfl)
    rw [this, components_name]
    rfl

/-! ## Stripping the root -/

/-- A piece that is not empty and not `.` stands for a component. -/
lemma isSome_ofPiece? {piece : Bytes} (hne : piece ≠ []) (hslash : slash ∉ piece)
    (hdot : piece ≠ [dot]) : (Component.ofPiece? piece).isSome := by
  by_cases hup : piece = [dot, dot]
  · simp [Component.ofPiece?, hup]
  · have hproper : Name.Proper piece := ⟨hne, hslash, hdot, hup⟩
    simp [Component.ofPiece?, hup, hproper]

lemma components_ne_nil {p : Path} (hp : p.bytes ≠ []) : p.components ≠ [] := by
  rcases lead_cases p.bytes with ⟨h, -⟩ | ⟨rest, -, hl⟩ | ⟨rest, -, -, hl⟩ | ⟨-, hhead, hs, hl⟩
  · exact absurd h hp
  · simp [components, hl]
  · simp [components, hl]
  · obtain ⟨b, rest, hb⟩ := List.exists_cons_of_ne_nil hp
    rw [hb] at hhead hs
    have hbslash : b ≠ slash := by simpa using hhead
    obtain ⟨piece, pieces, hsplit, hfirst⟩ := splitOn_cons_of_ne hbslash rest
    have hmem : b :: piece ∈ (b :: rest).splitOn slash := by rw [hsplit]; simp
    -- The piece `.` alone would have been the lead.
    have hdot : b :: piece ≠ [dot] := by
      intro h
      obtain ⟨rfl, rfl⟩ := List.cons.inj h
      rcases hfirst rfl with rfl | hrest
      · simp [startsHere] at hs
      · cases rest with
        | nil => simp at hrest
        | cons c rest =>
          have : c = slash := by simpa using hrest
          simp [startsHere, this] at hs
    have hsome := isSome_ofPiece? (List.cons_ne_nil b piece) (sep_notMem_of_mem_splitOn hmem) hdot
    obtain ⟨c, hc⟩ := Option.isSome_iff_exists.1 hsome
    rw [components, bodyPieces, hl, hb, hsplit, List.filterMap_cons_some hc]
    simp

lemma isBlank_name (n : Name) : isBlank n.bytes = false := by
  simp [isBlank, Component.ofPiece?_name]

lemma trimEnd_names (front : List Bytes) (ns : List Name) (hns : ns ≠ []) :
    trimEnd (front ++ ns.map Name.bytes) = front ++ ns.map Name.bytes := by
  rw [← List.dropLast_concat_getLast hns]
  simp [trimEnd, isBlank_name]

/-- Dropping as many components as stand in front leaves the rest. -/
lemma dropComponents_front (front rest : List Bytes) :
    dropComponents (front.filterMap Component.ofPiece?).length (front ++ rest) =
      dropComponents 0 rest := by
  induction front with
  | nil => rfl
  | cons piece front ih =>
    -- A blank piece is no component and is dropped for nothing.
    cases hc : Component.ofPiece? piece with
    | none =>
      have hblank : isBlank piece = true := by simp [isBlank, hc]
      rw [List.filterMap_cons_none hc, List.cons_append]
      generalize hk : (front.filterMap Component.ofPiece?).length = k at ih ⊢
      cases k <;> simp only [dropComponents, hblank, if_true] <;> exact ih
    | some c =>
      have hblank : isBlank piece = false := by simp [isBlank, hc]
      rw [List.filterMap_cons_some hc, List.cons_append, List.length_cons]
      simp only [dropComponents, hblank, Bool.false_eq_true, if_false]
      exact ih

/-- Stripping the root off the path of an entry leaves the names that lead to it. -/
theorem relativeTo?_descend {p : Path} (hp : p.bytes ≠ []) {ns : List Name} (hns : ns ≠ []) :
    (p.descend ns).relativeTo? p = some (ofNames ns) := by
  have hpre : (p.descend ns).startsWith p = true := by
    rw [startsWith, components_descend hp, List.isPrefixOf_iff_prefix]
    exact List.prefix_append _ _
  obtain ⟨hlead, front, hfront, hcases⟩ := bodyPieces_descend hp hns
  -- The components of `p` are its lead and those of the pieces in front of the names.
  have hskipped : p.components.length - (lead (p.descend ns).bytes).1.toList.length =
      (front.filterMap Component.ofPiece?).length := by
    rw [hlead, components, List.length_append, Nat.add_sub_cancel_left]
    rcases hcases with h | h
    · rw [h]
    · simp [h, Component.ofPiece?_nil]
  have hdrop : dropComponents 0 (ns.map Name.bytes) = ns.map Name.bytes := by
    obtain ⟨n, rest, rfl⟩ := List.exists_cons_of_ne_nil hns
    simp [dropComponents, isBlank_name]
  rw [relativeTo?, if_pos hpre, if_neg (components_ne_nil hp)]
  simp only [hskipped, hfront, dropComponents_front, hdrop]
  have htrim := trimEnd_names [] ns hns
  rw [List.nil_append] at htrim
  rw [htrim, ofNames]

/-- The names that lead from a path to an entry can be read off the path of the entry. -/
theorem descend_injective {p : Path} (hp : p.bytes ≠ []) {ms ns : List Name} (hms : ms ≠ [])
    (hns : ns ≠ []) (h : p.descend ms = p.descend ns) : ofNames ms = ofNames ns := by
  have hms' := relativeTo?_descend hp hms
  rw [h, relativeTo?_descend hp hns] at hms'
  exact (Option.some.inj hms').symm

/-! ## Order -/

lemma key_ofNames (ns : List Name) : (ofNames ns).key = ns.map fun n => 3 :: n.bytes := by
  rw [key, components_ofNames, List.map_map]
  rfl

/-- The first name in which two paths differ decides their order. -/
theorem key_lt_of_name_lt (ms xs ys : List Name) {m n : Name} (h : m.bytes < n.bytes) :
    (ofNames (ms ++ m :: xs)).key < (ofNames (ms ++ n :: ys)).key := by
  simp only [key_ofNames, List.map_append, List.map_cons]
  induction ms with
  | nil => exact List.Lex.rel (List.Lex.cons h)
  | cons k ms ih => exact List.Lex.cons ih

theorem key_ofNames_injective {ms ns : List Name} (h : (ofNames ms).key = (ofNames ns).key) :
    ms = ns := by
  have hc := key_eq_key_iff.1 h
  rw [components_ofNames, components_ofNames] at hc
  exact (List.map_inj_right fun _ _ => Component.name.inj).1 hc

theorem ofNames_injective {ms ns : List Name} (h : ofNames ms = ofNames ns) : ms = ns :=
  key_ofNames_injective (congrArg key h)

end Path

/-- Of two different names the one that does not come later comes first. -/
lemma Name.lt_of_le_of_ne {m n : Name} (hle : m.le n = true) (hne : m ≠ n) :
    m.bytes < n.bytes := by
  have hnot : ¬ n.bytes < m.bytes := by simpa [Name.le] using hle
  by_contra h
  exact hne (Name.ext (TotalOrder.connected h hnot))

end Reconcile
