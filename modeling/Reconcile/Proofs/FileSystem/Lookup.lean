import Mathlib.Data.List.Induction
import Reconcile.FileSystem.Listing

/-!
# Looking up a location

What stands at a location is found one name after the other, so a lookup splits wherever the
location does (`Listing.lookup_append`, `Listing.lookup_concat`).  The directories of a tree stand
at finitely many locations, `Listing.directories`, as many as `Listing.directoryCount` says.
-/

namespace Reconcile

/-- Is the node a link? -/
def Node.isLink : Node → Bool
  | .link _ => true
  | _ => false

/-- What begins a list does not go beyond it. -/
lemma ne_concat_of_isPrefix {α : Type} {ms ns : List α} (h : ms <+: ns) (a : α) :
    ms ≠ ns ++ [a] := by
  rintro rfl
  have hle := h.length_le
  rw [List.length_append, List.length_singleton] at hle
  omega

namespace Listing

/-- Induction on the entries of a directory, and on those of the directories in it. -/
lemma cons_induction {P : Listing → Prop} (nil : P .nil)
    (cons : ∀ name node rest, (∀ inner, node = .directory inner → P inner) → P rest →
      P (.cons name node rest)) : ∀ l, P l
  | .nil => nil
  | .file name content rest => cons name (.file content) rest nofun (cons_induction nil cons rest)
  | .link name target rest => cons name (.link target) rest nofun (cons_induction nil cons rest)
  | .directory name inner rest =>
    cons name (.directory inner) rest
      (fun _ h => Node.directory.inj h ▸ cons_induction nil cons inner)
      (cons_induction nil cons rest)

/-! ## One directory -/

lemma mem_toList_of_find? {l : Listing} {n : Name} {node : Node} (h : l.find? n = some node) :
    (n, node) ∈ l.toList := by
  induction l using cons_induction with
  | nil => simp at h
  | cons name node' rest _ ih =>
    rw [find?_cons] at h
    rw [toList_cons, List.mem_cons]
    split at h
    · rename_i hname
      exact Or.inl (by rw [hname, Option.some.inj h])
    · exact Or.inr (ih h)

lemma exists_find?_of_mem_toList {l : Listing} {n : Name} {node : Node}
    (h : (n, node) ∈ l.toList) : ∃ node', l.find? n = some node' := by
  induction l using cons_induction with
  | nil => simp at h
  | cons name node' rest _ ih =>
    rw [find?_cons]
    split
    · exact ⟨node', rfl⟩
    · rename_i hne
      rw [toList_cons, List.mem_cons] at h
      rcases h with heq | hmem
      · exact absurd (Prod.mk.inj heq).1.symm hne
      · exact ih hmem

/-- The names of a directory are distinct. -/
lemma pairwise_ne_toList {l : Listing} (hl : l.Distinct) :
    l.toList.Pairwise fun a b => a.1 ≠ b.1 := by
  induction l using cons_induction with
  | nil => exact List.Pairwise.nil
  | cons name node rest _ ih =>
    obtain ⟨hnone, -, hrest⟩ := distinct_cons.1 hl
    rw [toList_cons, List.pairwise_cons]
    refine ⟨?_, ih hrest⟩
    rintro ⟨m, node'⟩ hmem rfl
    obtain ⟨node'', hsome⟩ := exists_find?_of_mem_toList hmem
    rw [hnone] at hsome
    cases hsome

lemma find?_of_mem_toList {l : Listing} (hl : l.Distinct) {n : Name} {node : Node}
    (h : (n, node) ∈ l.toList) : l.find? n = some node := by
  induction l using cons_induction with
  | nil => simp at h
  | cons name node' rest _ ih =>
    have hne := pairwise_ne_toList hl
    rw [toList_cons, List.pairwise_cons] at hne
    rw [find?_cons]
    rw [toList_cons, List.mem_cons] at h
    rcases h with heq | hmem
    · obtain ⟨rfl, rfl⟩ := Prod.mk.inj heq
      simp
    · rw [if_neg (hne.1 _ hmem)]
      exact ih (distinct_cons.1 hl).2.2 hmem

lemma directoryCount_lt_of_find? {l inner : Listing} {n : Name}
    (h : l.find? n = some (.directory inner)) : inner.directoryCount < l.directoryCount := by
  induction l with
  | nil => simp at h
  | file name _ rest ih | link name _ rest ih =>
    simp only [find?] at h
    split at h
    · simp at h
    · simpa [directoryCount] using ih h
  | directory name inner' rest _ ih =>
    simp only [find?] at h
    simp only [directoryCount]
    split at h
    · have : inner' = inner := by simpa using h
      subst this
      omega
    · have := ih h
      omega

/-! ## Splitting a location -/

@[simp] lemma lookup_nil (top : Listing) : top.lookup [] = some (.directory top) := rfl

lemma lookup_cons (top : Listing) (n : Name) (rest : Location) :
    top.lookup (n :: rest) =
      match top.find? n with
      | some (.directory inner) => inner.lookup rest
      | some node => if rest = [] then some node else none
      | none => none := rfl

lemma lookup_cons_congr {top top' : Listing} {n : Name} (h : top.find? n = top'.find? n)
    (rest : Location) : top.lookup (n :: rest) = top'.lookup (n :: rest) := by
  rw [lookup_cons, lookup_cons, h]

@[simp] lemma lookup_singleton (top : Listing) (n : Name) : top.lookup [n] = top.find? n := by
  rw [lookup_cons]
  split <;> simp_all

/-- A lookup passes through directories only. -/
lemma lookup_cons_eq_some {top : Listing} {n : Name} {rest : Location} {node : Node}
    (hrest : rest ≠ []) :
    top.lookup (n :: rest) = some node ↔
      ∃ inner, top.find? n = some (.directory inner) ∧ inner.lookup rest = some node := by
  rw [lookup_cons]
  split
  · rename_i inner hfind
    simp [hfind]
  · rename_i node' hnot hfind
    rw [if_neg hrest, hfind]
    constructor
    · rintro ⟨⟩
    · rintro ⟨inner, h, -⟩
      exact absurd (Option.some.inj h) (hnot inner)
  · rename_i hfind
    simp [hfind]

lemma lookup_append {top inner : Listing} {loc : Location}
    (h : top.lookup loc = some (.directory inner)) (rest : Location) :
    top.lookup (loc ++ rest) = inner.lookup rest := by
  induction loc generalizing top with
  | nil =>
    rw [lookup_nil, Option.some.injEq, Node.directory.injEq] at h
    rw [h, List.nil_append]
  | cons n loc ih =>
    rw [List.cons_append]
    cases hfind : top.find? n with
    | none => simp [lookup_cons, hfind] at h
    | some node =>
      cases node with
      | file content => simp [lookup_cons, hfind] at h
      | link target => simp [lookup_cons, hfind] at h
      | directory inner' =>
        rw [lookup_cons, hfind] at h
        rw [lookup_cons, hfind]
        exact ih h

theorem lookup_append_eq_some {top : Listing} {loc rest : Location} {node : Node}
    (hrest : rest ≠ []) :
    top.lookup (loc ++ rest) = some node ↔
      ∃ inner, top.lookup loc = some (.directory inner) ∧ inner.lookup rest = some node := by
  constructor
  · intro h
    induction loc generalizing top with
    | nil => exact ⟨top, rfl, h⟩
    | cons n loc ih =>
      rw [List.cons_append, lookup_cons_eq_some (by simp [hrest])] at h
      obtain ⟨inner, hfind, h⟩ := h
      obtain ⟨inner', hloc, hnode⟩ := ih h
      refine ⟨inner', ?_, hnode⟩
      rw [lookup_cons, hfind]
      exact hloc
  · rintro ⟨inner, hloc, hnode⟩
    rw [lookup_append hloc, hnode]

theorem lookup_concat {top : Listing} {loc : Location} {n : Name} {node : Node} :
    top.lookup (loc ++ [n]) = some node ↔
      ∃ inner, top.lookup loc = some (.directory inner) ∧ inner.find? n = some node := by
  rw [lookup_append_eq_some (by simp)]
  simp only [lookup_singleton]

/-- Above a directory there is a directory. -/
lemma lookup_dropLast {top inner : Listing} {loc : Location}
    (h : top.lookup loc = some (.directory inner)) :
    ∃ outer, top.lookup loc.dropLast = some (.directory outer) := by
  by_cases hnil : loc = []
  · subst hnil
    exact ⟨top, rfl⟩
  · rw [← List.dropLast_concat_getLast hnil, lookup_concat] at h
    obtain ⟨outer, houter, -⟩ := h
    exact ⟨outer, houter⟩

/-- On the way to a node there are directories only. -/
lemma lookup_above {top : Listing} {loc : Location} {ms ns : List Name} {node : Node}
    (h : top.lookup (loc ++ ns) = some node) (hpre : ms <+: ns) (hne : ms ≠ ns) :
    ∃ inner, top.lookup (loc ++ ms) = some (.directory inner) := by
  obtain ⟨rest, rfl⟩ := hpre
  have hrest : rest ≠ [] := by
    rintro rfl
    exact hne (List.append_nil _).symm
  rw [← List.append_assoc] at h
  obtain ⟨inner, hinner, -⟩ := (lookup_append_eq_some hrest).1 h
  exact ⟨inner, hinner⟩

lemma distinct_of_lookup {top inner : Listing} (h : top.Distinct) {loc : Location}
    (hloc : top.lookup loc = some (.directory inner)) : inner.Distinct := by
  induction loc using List.reverseRecOn generalizing inner with
  | nil =>
    rw [lookup_nil, Option.some.injEq, Node.directory.injEq] at hloc
    exact hloc ▸ h
  | append_singleton loc n ih =>
    obtain ⟨outer, houter, hfind⟩ := lookup_concat.1 hloc
    exact distinct_of_find? (ih houter) hfind

lemma named_of_lookup {top inner : Listing} (h : top.Named) {loc : Location}
    (hloc : top.lookup loc = some (.directory inner)) : inner.Named := by
  induction loc using List.reverseRecOn generalizing inner with
  | nil =>
    rw [lookup_nil, Option.some.injEq, Node.directory.injEq] at hloc
    exact hloc ▸ h
  | append_singleton loc n ih =>
    obtain ⟨outer, houter, hfind⟩ := lookup_concat.1 hloc
    exact named_of_find? (ih houter) hfind

/-- All names on the way to a node fit. -/
lemma fits_of_lookup {top : Listing} (h : top.Named) {loc : Location} {node : Node}
    (hnode : top.lookup loc = some node) : ∀ n ∈ loc, n.Fits := by
  induction loc using List.reverseRecOn generalizing node with
  | nil => simp
  | append_singleton loc n ih =>
    obtain ⟨inner, hinner, hfind⟩ := lookup_concat.1 hnode
    intro m hm
    rcases List.mem_append.1 hm with hm | hm
    · exact ih hinner m hm
    · rw [List.mem_singleton.1 hm]
      exact fits_of_find? (named_of_lookup h hinner) hfind

/-! ## All directories -/

/-- Where the directories below the top stand. -/
def directories : Listing → List Location
  | nil => []
  | file _ _ rest => rest.directories
  | link _ _ rest => rest.directories
  | directory name inner rest =>
    [name] :: inner.directories.map (name :: ·) ++ rest.directories

lemma length_directories (l : Listing) : l.directories.length = l.directoryCount := by
  induction l with
  | nil => rfl
  | file _ _ rest ih | link _ _ rest ih => simpa [directories, directoryCount] using ih
  | directory _ inner rest ihInner ihRest =>
    simp only [directories, directoryCount, List.cons_append, List.length_cons,
      List.length_append, List.length_map, ihInner, ihRest]

lemma mem_directories_cons {name : Name} {node : Node} {rest : Listing} {loc : Location} :
    loc ∈ (cons name node rest).directories ↔
      (∃ inner, node = .directory inner ∧
        (loc = [name] ∨ ∃ loc' ∈ inner.directories, name :: loc' = loc)) ∨
        loc ∈ rest.directories := by
  cases node <;> simp [cons, directories, or_assoc]

/-- Every directory below the top is among them. -/
theorem mem_directories {l inner : Listing} {n : Name} {rest : Location}
    (h : l.lookup (n :: rest) = some (.directory inner)) : n :: rest ∈ l.directories := by
  -- The first name is found among the entries, the others below the entry that it is found at.
  induction l using cons_induction generalizing n rest inner with
  | nil => simp [lookup_cons] at h
  | cons name node others ihInner ihOthers =>
    rw [mem_directories_cons]
    by_cases hname : name = n
    · subst hname
      have hfind : (cons name node others).find? name = some node := by simp [find?_cons]
      left
      cases rest with
      | nil =>
        rw [lookup_singleton, hfind, Option.some.injEq] at h
        exact ⟨inner, h, Or.inl rfl⟩
      | cons m rest =>
        obtain ⟨inner', hinner', h⟩ := (lookup_cons_eq_some (by simp)).1 h
        rw [hfind, Option.some.injEq] at hinner'
        exact ⟨inner', hinner', Or.inr ⟨m :: rest, ihInner inner' hinner' h, rfl⟩⟩
    · have hfind : (cons name node others).find? n = others.find? n := by
        simp [find?_cons, hname]
      rw [lookup_cons_congr hfind] at h
      exact Or.inr (ihOthers h)

end Listing
end Reconcile
