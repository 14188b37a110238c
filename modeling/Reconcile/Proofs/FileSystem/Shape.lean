import Reconcile.FileSystem.Effect
import Reconcile.Proofs.FileSystem.Lookup

/-!
# The shape of a tree

A change in one directory changes the contents of every directory around it, but not that they are
directories.  `FileSystem.shape` says what stands at a location and nothing about what is in it, so
that a change is seen where it is made and nowhere else: `FileSystem.shape_withFile`,
`FileSystem.shape_withDirectory` and `FileSystem.shape_storeAt`.
-/

namespace Reconcile

/-- The node by itself, without what is in it if it is a directory. -/
def Node.bare : Node → Node
  | .directory _ => .directory .nil
  | node => node

@[simp] lemma Node.isLink_bare (node : Node) : node.bare.isLink = node.isLink := by
  cases node <;> rfl

namespace Listing

variable {top inner : Listing} {loc parent : Location} {n : Name} {node : Node}

/-- What stands at a location, by itself. -/
def shape (top : Listing) (loc : Location) : Option Node := (top.lookup loc).map Node.bare

@[simp] lemma shape_nil (top : Listing) : top.shape [] = some (.directory .nil) := rfl

lemma shape_cons_directory (h : top.find? n = some (.directory inner)) (rest : Location) :
    top.shape (n :: rest) = inner.shape rest := by
  rw [shape, lookup_cons, h]
  rfl

/-- Below anything but a directory there is nothing. -/
lemma shape_cons_of_ne (h : ∀ inner, top.find? n ≠ some (.directory inner)) (rest : Location) :
    top.shape (n :: rest) = if rest = [] then (top.find? n).map Node.bare else none := by
  rw [shape, lookup_cons]
  split
  · rename_i inner hfind
    exact absurd hfind (h inner)
  · rename_i node hnot hfind
    rw [hfind]
    split <;> rfl
  · rename_i hfind
    rw [hfind]
    split <;> rfl

lemma shape_cons_congr {top' : Listing} (h : top.find? n = top'.find? n) (rest : Location) :
    top.shape (n :: rest) = top'.shape (n :: rest) := by
  rw [shape, shape, lookup_cons_congr h]

lemma shape_eq_directory_iff :
    top.shape loc = some (.directory .nil) ↔
      ∃ inner, top.lookup loc = some (.directory inner) := by
  rw [shape, Option.map_eq_some_iff]
  constructor
  · rintro ⟨node, hnode, hbare⟩
    cases node with
    | directory inner => exact ⟨inner, hnode⟩
    | file content => cases hbare
    | link target => cases hbare
  · rintro ⟨inner, hinner⟩
    exact ⟨_, hinner, rfl⟩

lemma shape_eq_file_iff {content : Bytes} :
    top.shape loc = some (.file content) ↔ top.lookup loc = some (.file content) := by
  rw [shape, Option.map_eq_some_iff]
  constructor
  · rintro ⟨node, hnode, hbare⟩
    cases node with
    | directory inner => cases hbare
    | file content' => rw [hnode, ← hbare]; rfl
    | link target => cases hbare
  · intro h
    exact ⟨_, h, rfl⟩

lemma shape_eq_link_iff {target : Path} :
    top.shape loc = some (.link target) ↔ top.lookup loc = some (.link target) := by
  rw [shape, Option.map_eq_some_iff]
  constructor
  · rintro ⟨node, hnode, hbare⟩
    cases node with
    | directory inner => cases hbare
    | file content => cases hbare
    | link target' => rw [hnode, ← hbare]; rfl
  · intro h
    exact ⟨_, h, rfl⟩

/-- Behind the first name of a directory there is a directory. -/
lemma exists_directory_of_shape_cons (h : top.shape (n :: loc) = some (.directory .nil)) :
    ∃ outer, top.find? n = some (.directory outer) ∧ outer.shape loc = some (.directory .nil) := by
  obtain ⟨outer, houter⟩ : ∃ outer, top.find? n = some (.directory outer) := by
    by_contra hnone
    rw [not_exists] at hnone
    rw [shape_cons_of_ne hnone] at h
    split at h
    · obtain ⟨node', hfind, hdir⟩ := Option.map_eq_some_iff.1 h
      cases node' with
      | directory outer => exact hnone outer hfind
      | file content => cases hdir
      | link target => cases hdir
    · cases h
  rw [shape_cons_directory houter] at h
  exact ⟨outer, houter, h⟩

lemma shape_concat (h : top.lookup loc = some (.directory inner)) (n : Name) :
    top.shape (loc ++ [n]) = (inner.find? n).map Node.bare := by
  rw [shape, lookup_append h, lookup_singleton]

/-- The shape below a new entry that is no directory with something in it. -/
lemma shape_set (hbare : node.bare = node) (hold : ∀ inner, top.find? n ≠ some (.directory inner))
    (loc : Location) :
    (top.set n node).shape loc = if loc = [n] then some node else top.shape loc := by
  cases loc with
  | nil => simp
  | cons m rest =>
    by_cases hm : n = m
    · subst hm
      have hfind : (top.set n node).find? n = some node := by simp [find?_set]
      rw [shape_cons_of_ne hold]
      cases node with
      | directory inner =>
        have hinner : inner = .nil := (Node.directory.inj hbare).symm
        subst hinner
        rw [shape_cons_directory hfind]
        cases rest with
        | nil => simp
        | cons k rest => simp [shape, lookup_cons]
      | file content =>
        rw [shape_cons_of_ne (by simp [hfind]), hfind]
        by_cases hrest : rest = [] <;> simp [hrest, Node.bare]
      | link target =>
        rw [shape_cons_of_ne (by simp [hfind]), hfind]
        by_cases hrest : rest = [] <;> simp [hrest, Node.bare]
    · have hfind : (top.set n node).find? m = top.find? m := by simp [find?_set, hm]
      have hne : ¬ m :: rest = [n] := fun h => hm (List.cons.inj h).1.symm
      rw [shape_cons_congr hfind, if_neg hne]

/-- A change in the directory at `parent` is seen at the changed entry only. -/
theorem shape_insertAt (hbare : node.bare = node)
    (hparent : top.shape parent = some (.directory .nil))
    (hold : top.shape (parent ++ [n]) ≠ some (.directory .nil)) (loc : Location) :
    (top.insertAt parent n node).shape loc =
      if loc = parent ++ [n] then some node else top.shape loc := by
  induction parent generalizing top loc with
  | nil =>
    refine shape_set hbare (fun inner hfind => hold ?_) loc
    rw [List.nil_append, shape_cons_directory hfind, shape_nil]
  | cons k parent ih =>
    obtain ⟨outer, houter, hparent⟩ := exists_directory_of_shape_cons hparent
    rw [List.cons_append, shape_cons_directory houter] at hold
    have hset : (top.insertAt (k :: parent) n node) =
        top.set k (.directory (outer.insertAt parent n node)) := by
      simp [insertAt, modifyAt, houter]
    have hfind := find?_set top k k (.directory (outer.insertAt parent n node))
    rw [if_pos rfl] at hfind
    rw [hset]
    cases loc with
    | nil => simp
    | cons m rest =>
      by_cases hm : k = m
      · subst hm
        rw [shape_cons_directory hfind, shape_cons_directory houter, ih hparent hold]
        simp
      · have hother : (top.set k (.directory (outer.insertAt parent n node))).find? m =
            top.find? m := by simp [find?_set, hm]
        have hne : ¬ m :: rest = k :: parent ++ [n] := fun h => hm (List.cons.inj h).1.symm
        rw [shape_cons_congr hother, if_neg hne]

/-! ### Links -/

/-- Is an entry of the tree a link? -/
def hasLink : Listing → Bool
  | nil => false
  | file _ _ rest => rest.hasLink
  | link .. => true
  | directory _ inner rest => inner.hasLink || rest.hasLink

lemma hasLink_cons_rest (name : Name) (node : Node) {rest : Listing} (h : rest.hasLink = true) :
    (cons name node rest).hasLink = true := by
  cases node <;> simp [cons, hasLink, h]

lemma hasLink_of_link {target : Path} (h : top.find? n = some (.link target)) :
    top.hasLink = true := by
  induction top using cons_induction with
  | nil => cases h
  | cons name node rest _ ih =>
    rw [find?_cons] at h
    split at h
    · cases h
      rfl
    · exact hasLink_cons_rest name node (ih h)

lemma hasLink_of_directory (h : top.find? n = some (.directory inner))
    (hlink : inner.hasLink = true) : top.hasLink = true := by
  induction top using cons_induction with
  | nil => cases h
  | cons name node rest _ ih =>
    rw [find?_cons] at h
    split at h
    · cases h
      simp [cons, hasLink, hlink]
    · exact hasLink_cons_rest name node (ih h)

lemma hasLink_of_lookup {target : Path} (h : top.lookup loc = some (.link target)) :
    top.hasLink = true := by
  induction loc generalizing top with
  | nil => cases h
  | cons n rest ih =>
    by_cases hrest : rest = []
    · subst hrest
      rw [lookup_singleton] at h
      exact hasLink_of_link h
    · obtain ⟨inner, hinner, h⟩ := (lookup_cons_eq_some hrest).1 h
      exact hasLink_of_directory hinner (ih h)

end Listing

namespace FileSystem

variable {fs : FileSystem} {loc parent : Location} {ms ns : List Name} {n : Name}

/-- What stands at a location, by itself. -/
def shape (fs : FileSystem) (loc : Location) : Option Node := fs.top.shape loc

/-- No link in the whole tree. -/
def LinkFree (fs : FileSystem) : Prop :=
  ∀ loc target, fs.node? loc ≠ some (.link target)

lemma LinkFree.shape_ne_link (h : fs.LinkFree) (loc : Location) (target : Path) :
    fs.shape loc ≠ some (.link target) :=
  fun hshape => h loc target (Listing.shape_eq_link_iff.1 hshape)

lemma linkFree_of_shape (h : ∀ loc target, fs.shape loc ≠ some (.link target)) : fs.LinkFree :=
  fun loc target hnode => h loc target (Listing.shape_eq_link_iff.2 hnode)

lemma LinkFree.isLink_eq_false (h : fs.LinkFree) {node : Node} (hnode : fs.node? loc = some node) :
    node.isLink = false := by
  cases node with
  | link target => exact absurd hnode (h loc target)
  | file content => rfl
  | directory inner => rfl

/-- The entries of a tree tell whether there is a link in it. -/
lemma linkFree_of_hasLink (h : fs.top.hasLink = false) : fs.LinkFree :=
  fun _ _ hnode => absurd (Listing.hasLink_of_lookup hnode) (by simp [h])

/-- Without links there is nothing, a directory, or a file. -/
lemma LinkFree.shape_cases (h : fs.LinkFree) (loc : Location) :
    fs.shape loc = none ∨ fs.shape loc = some (.directory .nil) ∨
      ∃ content, fs.shape loc = some (.file content) := by
  cases hshape : fs.shape loc with
  | none => exact Or.inl rfl
  | some node =>
    cases node with
    | file content => exact Or.inr (Or.inr ⟨content, rfl⟩)
    | link target => exact absurd hshape (h.shape_ne_link loc target)
    | directory inner =>
      obtain ⟨node, -, hbare⟩ := Option.map_eq_some_iff.1 hshape
      refine Or.inr (Or.inl ?_)
      cases node <;> cases hbare
      rfl

/-- On the way to anything there are directories. -/
lemma shape_above {node : Node} (h : fs.shape (loc ++ ns) = some node) (hpre : ms <+: ns)
    (hne : ms ≠ ns) : fs.shape (loc ++ ms) = some (.directory .nil) := by
  obtain ⟨node', hnode, -⟩ := Option.map_eq_some_iff.1 h
  exact Listing.shape_eq_directory_iff.2 (Listing.lookup_above hnode hpre hne)

/-- An entry stands in a directory. -/
lemma shape_parent {node : Node} (h : fs.shape (loc ++ (ns ++ [n])) = some node) :
    fs.shape (loc ++ ns) = some (.directory .nil) :=
  shape_above h (List.prefix_append ns [n]) (by simp)

/-- Below nothing there is nothing. -/
lemma shape_below_of_none (hnone : fs.shape parent = none) (hpre : parent <+: loc) :
    fs.shape loc = none := by
  obtain ⟨rest, rfl⟩ := hpre
  cases hshape : fs.shape (parent ++ rest) with
  | none => rfl
  | some node =>
    by_cases hrest : rest = []
    · rw [hrest, List.append_nil, hnone] at hshape
      cases hshape
    · have habove := shape_above hshape List.nil_prefix (Ne.symm hrest)
      rw [List.append_nil, hnone] at habove
      cases habove

lemma ne_nil_of_shape_ne {found found' : Option Node} (hloc : fs.shape loc = found)
    (hns : fs.shape (loc ++ ns) = found') (hne : found' ≠ found) : ns ≠ [] := by
  rintro rfl
  rw [List.append_nil] at hns
  exact hne (hns.symm.trans hloc)

lemma fits_of_shape {node : Node} (h : fs.shape loc = some node) : ∀ n ∈ loc, n.Fits := by
  obtain ⟨node', hnode, -⟩ := Option.map_eq_some_iff.1 h
  exact Listing.fits_of_lookup fs.named hnode

lemma shape_withFile (fits : n.Fits) (content : Bytes)
    (hparent : fs.shape parent = some (.directory .nil))
    (hold : fs.shape (parent ++ [n]) ≠ some (.directory .nil)) (loc : Location) :
    (fs.withFile parent n fits content).shape loc =
      if loc = parent ++ [n] then some (.file content) else fs.shape loc :=
  Listing.shape_insertAt rfl hparent hold loc

lemma shape_withDirectory (fits : n.Fits)
    (hparent : fs.shape parent = some (.directory .nil))
    (hold : fs.shape (parent ++ [n]) = none) (loc : Location) :
    (fs.withDirectory parent n fits).shape loc =
      if loc = parent ++ [n] then some (.directory .nil) else fs.shape loc :=
  Listing.shape_insertAt rfl hparent (fun h => by rw [shape, h] at hold; cases hold) loc

lemma storeAt_current (fs : FileSystem) (loc : Location) (content : Bytes) :
    (fs.storeAt loc content).current = fs.current := by
  rw [storeAt]
  split
  · rfl
  · split <;> rfl

/-- Storing in a file changes what is in that file. -/
lemma shape_storeAt {content : Bytes} (hfile : fs.shape loc = some (.file content))
    (content' : Bytes) (loc' : Location) :
    (fs.storeAt loc content').shape loc' =
      if loc' = loc then some (.file content') else fs.shape loc' := by
  have hne : loc ≠ [] := by
    rintro rfl
    cases hfile
  have hloc := List.dropLast_concat_getLast hne
  have hnode := Listing.shape_eq_file_iff.1 hfile
  rw [← hloc] at hnode
  obtain ⟨inner, hinner, hfind⟩ := Listing.lookup_concat.1 hnode
  have fits := Listing.fits_of_find? (Listing.named_of_lookup fs.named hinner) hfind
  rw [storeAt, List.getLast?_eq_some_getLast hne]
  simp only [fits, dif_pos]
  rw [shape_withFile fits content' (Listing.shape_eq_directory_iff.2 ⟨inner, hinner⟩), hloc]
  rw [hloc, hfile]
  simp

end FileSystem
end Reconcile
