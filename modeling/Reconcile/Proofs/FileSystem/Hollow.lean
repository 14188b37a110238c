import Reconcile.Proofs.FileSystem.Shape

/-!
# Trees up to the contents of files

The entries of a directory stand in an order that no path can see.  Storing in a file that is there
keeps it (`FileSystem.hollow_storeAt`), and a tree is known from the order of its entries together
with what stands at each location (`FileSystem.eq_of_hollow`).
-/

namespace Reconcile

namespace Listing

/-- The same entries in the same order, with nothing in any file. -/
def hollow : Listing → Listing
  | nil => nil
  | file name _ rest => file name [] rest.hollow
  | link name target rest => link name target rest.hollow
  | directory name inner rest => directory name inner.hollow rest.hollow

end Listing

/-- The same node, with nothing in it if it is a file and in no file below it. -/
def Node.hollow : Node → Node
  | .file _ => .file []
  | .link target => .link target
  | .directory inner => .directory inner.hollow

namespace Listing

variable {top top' rest rest' : Listing} {n name : Name} {node node' : Node} {parent : Location}
  {content : Bytes}

lemma hollow_cons (name : Name) (node : Node) (rest : Listing) :
    (cons name node rest).hollow = cons name node.hollow rest.hollow := by
  cases node <;> rfl

lemma set_cons (name n : Name) (node node' : Node) (rest : Listing) :
    (cons name node rest).set n node' =
      if name = n then cons n node' rest else cons name node (rest.set n node') := by
  cases node <;> rfl

/-! ## Changes inside a node -/

lemma hollow_set (h : top.find? n = some node) (hnode : node'.hollow = node.hollow) :
    (top.set n node').hollow = top.hollow := by
  induction top using cons_induction with
  | nil => cases h
  | cons name old rest _ ih =>
    rw [find?_cons] at h
    rw [set_cons]
    split at h
    · rename_i hname
      cases h
      rw [if_pos hname, hollow_cons, hollow_cons, hnode, hname]
    · rename_i hname
      rw [if_neg hname, hollow_cons, hollow_cons, ih h]

/-- Another file in place of a file leaves all entries where they are. -/
lemma hollow_insertAt (h : top.lookup (parent ++ [n]) = some (.file content)) (content' : Bytes) :
    (top.insertAt parent n (.file content')).hollow = top.hollow := by
  induction parent generalizing top with
  | nil =>
    rw [List.nil_append, lookup_singleton] at h
    exact hollow_set h rfl
  | cons m parent ih =>
    obtain ⟨inner, hinner, h⟩ := (lookup_cons_eq_some (by simp)).1 h
    have hset : top.insertAt (m :: parent) n (.file content') =
        top.set m (.directory (inner.insertAt parent n (.file content'))) := by
      simp [insertAt, modifyAt, hinner]
    rw [hset]
    exact hollow_set hinner (by rw [Node.hollow, Node.hollow, ih h])

/-! ## Equal trees -/

lemma cons_inj {name' : Name} :
    cons name node rest = cons name' node' rest' ↔ name = name' ∧ node = node' ∧ rest = rest' := by
  cases node <;> cases node' <;> simp [cons]

lemma exists_of_hollow_eq_cons (h : (cons name node rest).hollow = top.hollow) :
    ∃ node' rest', top = cons name node' rest' ∧ node.hollow = node'.hollow ∧
      rest.hollow = rest'.hollow := by
  cases top using cons_induction with
  | nil => cases node <;> cases h
  | cons name' node' rest' =>
    rw [hollow_cons, hollow_cons, cons_inj] at h
    obtain ⟨rfl, hnode, hrest⟩ := h
    exact ⟨node', rest', rfl, hnode, hrest⟩

lemma shape_of_distinct (hdistinct : (cons name node rest).Distinct) (loc : Location) :
    rest.shape loc = if loc.head? = some name then none else (cons name node rest).shape loc := by
  cases loc with
  | nil => simp
  | cons m loc =>
    by_cases hm : name = m
    · subst hm
      have hnone := (distinct_cons.1 hdistinct).1
      simp [shape, lookup_cons, hnone]
    · have hfind : (cons name node rest).find? m = rest.find? m := by rw [find?_cons, if_neg hm]
      rw [shape_cons_congr hfind, if_neg]
      simpa [eq_comm] using hm

/-- Trees with the same entries in the same order are equal if the same stands everywhere. -/
theorem eq_of_hollow_eq (hdistinct : top.Distinct) (hdistinct' : top'.Distinct)
    (hhollow : top.hollow = top'.hollow) (hshape : ∀ loc, top.shape loc = top'.shape loc) :
    top = top' := by
  induction top using cons_induction generalizing top' with
  | nil =>
    cases top' <;> cases hhollow
    rfl
  | cons name node rest ihInner ihRest =>
    obtain ⟨node', rest', rfl, hnode, hrest⟩ := exists_of_hollow_eq_cons hhollow
    have hdist := distinct_cons.1 hdistinct
    have hdist' := distinct_cons.1 hdistinct'
    have hfind : (cons name node rest).find? name = some node := by simp [find?_cons]
    have hfind' : (cons name node' rest').find? name = some node' := by simp [find?_cons]
    have hbelow : rest = rest' := by
      refine ihRest hdist.2.2 hdist'.2.2 hrest fun loc => ?_
      rw [shape_of_distinct hdistinct, shape_of_distinct hdistinct', hshape]
    have hsame : node = node' := by
      have hone := hshape [name]
      rw [shape, shape, lookup_singleton, lookup_singleton, hfind, hfind'] at hone
      cases node with
      | file content =>
        cases node' <;> cases hone
        rfl
      | link target =>
        cases node' <;> cases hone
        rfl
      | directory inner =>
        cases node' with
        | file content => cases hone
        | link target => cases hone
        | directory inner' =>
          rw [ihInner inner rfl hdist.2.1 hdist'.2.1 (Node.directory.inj hnode) fun loc => ?_]
          have hloc := hshape (name :: loc)
          rwa [shape_cons_directory hfind, shape_cons_directory hfind'] at hloc
    rw [hsame, hbelow]

end Listing

namespace FileSystem

variable {fs fs' : FileSystem} {loc : Location} {content : Bytes}

lemma hollow_storeAt (hfile : fs.shape loc = some (.file content)) (content' : Bytes) :
    (fs.storeAt loc content').top.hollow = fs.top.hollow := by
  rw [storeAt]
  split
  · rfl
  · rename_i n hn
    split
    · obtain ⟨parent, rfl⟩ := List.getLast?_eq_some_iff.1 hn
      rw [List.dropLast_concat]
      exact Listing.hollow_insertAt (Listing.shape_eq_file_iff.1 hfile) content'
    · rfl

/-- Two trees are equal if the same stands everywhere and the entries are in the same order. -/
theorem eq_of_hollow (hcurrent : fs.current = fs'.current)
    (hhollow : fs.top.hollow = fs'.top.hollow) (hshape : ∀ loc, fs.shape loc = fs'.shape loc) :
    fs = fs' := by
  have htop := Listing.eq_of_hollow_eq fs.distinct fs'.distinct hhollow hshape
  cases fs
  cases fs'
  simp only at hcurrent htop
  subst hcurrent htop
  rfl

end FileSystem
end Reconcile
