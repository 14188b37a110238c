import Reconcile.Proofs.FileSystem.Read
import Reconcile.Proofs.FileSystem.Shape
import Reconcile.Proofs.Path.Parent

/-!
# Places below a directory

Below a directory that is located, names without a link on the way lead where they stand, whatever
the last of them is for.  So the shape of the tree tells what `FileSystem.place` answers: the entry,
a free name, or why there is neither (`FileSystem.place_descend_free` and the lemmas behind it).
-/

namespace Reconcile
namespace FileSystem

variable {fs : FileSystem} {p : Path} {loc : Location} {ms ns : List Name} {n : Name}

/-! ## The start of the names -/

/-- Steps of a path that lead somewhere can be taken first. -/
lemma follow_append {top : Listing} {purpose : Purpose} {k links : Nat} {mid : Location}
    {xs ys : List Step} (hnamed : top.Named) (h : Leads top k loc xs mid) (hk : k ≤ links)
    (hys : ∀ rest, rest ++ ys ≠ [] ∧ rest ++ ys ≠ [.close]) :
    follow top purpose links loc (xs ++ ys) = follow top purpose (links - k) mid ys := by
  -- The steps behind `xs` are not taken yet, so nothing is the last step on the way.
  induction h generalizing links with
  | stop loc => rfl
  | @stay k loc loc' step rest inner hstep hdir _ ih =>
    rw [← ih hk]
    rcases hstep with rfl | rfl <;> cases links <;> simp only [follow, followSteps, hdir,
      List.cons_append]
  | up hdir _ ih =>
    rw [← ih hk]
    cases links <;> simp only [follow, followSteps, hdir, List.cons_append]
  | @enter k loc loc' n rest inner node hdir hfind hlink _ ih =>
    rw [← ih hk]
    obtain ⟨hlen, hnul⟩ := Listing.fits_of_find? (Listing.named_of_lookup hnamed hdir) hfind
    have hclose := (hys rest).2
    cases node with
    | link target => simp [Node.isLink] at hlink
    | file content =>
      cases links <;>
        simp [follow, followSteps, hdir, hfind, hclose, Nat.not_lt.2 hlen, hnul]
    | directory inner' =>
      cases links <;>
        simp [follow, followSteps, hdir, hfind, hclose, Nat.not_lt.2 hlen, hnul]
  | @jump k loc loc' n rest inner target hdir hfind _ ih =>
    obtain ⟨hlen, hnul⟩ := Listing.fits_of_find? (Listing.named_of_lookup hnamed hdir) hfind
    obtain ⟨hnil, hclose⟩ := hys rest
    cases links with
    | zero => omega
    | succ links =>
      rw [Nat.add_sub_add_right, ← ih (Nat.le_of_succ_le_succ hk)]
      simp only [List.cons_append, follow, followSteps, hdir, hfind, hclose, Nat.not_lt.2 hlen,
        hnul, hnil, and_false, false_and, if_false, dif_neg, not_false_eq_true, List.append_assoc]

lemma cut_names {ns : List Name} (hns : ns ≠ []) (rest : List Step) :
    rest ++ ns.map .enter ≠ [] ∧ rest ++ ns.map .enter ≠ [.close] := by
  rw [← List.dropLast_concat_getLast hns, List.map_append, ← List.append_assoc]
  constructor
  · simp
  · intro h
    have hlast := congrArg List.getLast? h
    simp at hlast

/-- The place of names below a directory is found from there. -/
lemma place_descend (hp : fs.locate p = .ok loc) (hns : ns ≠ []) (hfits : ∀ n ∈ ns, n.Fits)
    (hshort : (p.descend ns).tooLong = false) :
    ∃ links, ∀ purpose,
      fs.place purpose (p.descend ns) = follow fs.top purpose links loc (ns.map .enter) := by
  obtain ⟨hnul', hne, -, k, hk, hleads⟩ := locate_eq_ok_iff.1 hp
  refine ⟨linkLimit - k, fun purpose => ?_⟩
  have hnul : 0 ∉ (p.descend ns).bytes := Path.notMem_descend hnul' fun n hn => (hfits n hn).2
  rw [place, if_neg hnul, if_neg (Path.descend_ne_nil hne ns), hshort]
  simp only [Bool.false_eq_true, if_false, Path.steps_descend p hns, Path.openSteps_descend,
    ite_self]
  rw [startOf, Path.isAbsolute_descend hne]
  exact follow_append fs.named hleads.openSteps hk (cut_names hns)

/-! ## The way along the names -/

section Follow

variable {purpose : Purpose} {links : Nat} {rest : List Name}

/-- Names that stand for directories can be taken first. -/
lemma follow_directories (hloc : fs.shape loc = some (.directory .nil))
    (hdir : fs.shape (loc ++ ms) = some (.directory .nil)) (hrest : rest ≠ []) :
    follow fs.top purpose links loc ((ms ++ rest).map .enter) =
      follow fs.top purpose links (loc ++ ms) (rest.map .enter) := by
  obtain ⟨inner, hinner⟩ := Listing.shape_eq_directory_iff.1 hloc
  obtain ⟨inner', hinner'⟩ := Listing.shape_eq_directory_iff.1 hdir
  rw [List.map_append]
  exact follow_append fs.named (.of_lookup hinner hinner' rfl) (Nat.zero_le _) (cut_names hrest)

/-- A name in a directory leads nowhere if nothing has it. -/
lemma follow_free (hloc : fs.shape loc = some (.directory .nil))
    (hnone : fs.shape (loc ++ [n]) = none) (fits : n.Fits) :
    follow fs.top purpose links loc ((n :: rest).map .enter) =
      if rest = [] then .ok (.free loc n fits) else .error .notFound := by
  obtain ⟨inner, hinner⟩ := Listing.shape_eq_directory_iff.1 hloc
  have hfind : inner.find? n = none := by
    have hshape := Listing.shape_concat hinner n
    rwa [← shape, hnone, eq_comm, Option.map_eq_none_iff] at hshape
  have hclose : rest.map Step.enter ≠ [.close] := by cases rest <;> simp
  cases links <;>
    simp [follow, followSteps, hinner, hfind, hclose, Nat.not_lt.2 fits.1, fits.2]

/-- A name in a directory leads to what has it. -/
lemma follow_taken {node : Node} (hloc : fs.shape loc = some (.directory .nil))
    (hnode : fs.shape (loc ++ [n]) = some node) (hlink : node.isLink = false) :
    follow fs.top purpose links loc ((n :: rest).map .enter) =
      follow fs.top purpose links (loc ++ [n]) (rest.map .enter) := by
  obtain ⟨inner, hinner⟩ := Listing.shape_eq_directory_iff.1 hloc
  have hshape := Listing.shape_concat hinner n
  rw [← shape, hnode, eq_comm, Option.map_eq_some_iff] at hshape
  obtain ⟨node', hfind, rfl⟩ := hshape
  have fits := Listing.fits_of_find? (Listing.named_of_lookup fs.named hinner) hfind
  have hclose : rest.map Step.enter ≠ [.close] := by cases rest <;> simp
  cases node' with
  | link target => cases hlink
  | file content =>
    cases links <;>
      simp [follow, followSteps, hinner, hfind, hclose, Nat.not_lt.2 fits.1, fits.2]
  | directory inner' =>
    cases links <;>
      simp [follow, followSteps, hinner, hfind, hclose, Nat.not_lt.2 fits.1, fits.2]

/-- Behind a file nothing can be entered. -/
lemma follow_file {content : Bytes} (hfile : fs.shape loc = some (.file content)) :
    follow fs.top purpose links loc ((n :: rest).map .enter) = .error .notDirectory := by
  have hnode := Listing.shape_eq_file_iff.1 hfile
  cases links <;> simp [follow, followSteps, hnode]

end Follow

/-! ## What names lead to -/

lemma isDirectoryAt_iff_shape :
    fs.isDirectoryAt p = true ↔
      ∃ loc, fs.locate p = .ok loc ∧ fs.shape loc = some (.directory .nil) := by
  simp only [isDirectoryAt_iff, shape, Listing.shape_eq_directory_iff, node?, exists_and_left]

lemma isDirectoryAt_of_shape (hp : fs.locate p = .ok loc)
    (hloc : fs.shape loc = some (.directory .nil)) : fs.isDirectoryAt p = true :=
  isDirectoryAt_iff_shape.2 ⟨loc, hp, hloc⟩

section Below

variable {purpose : Purpose} (hp : fs.locate p = .ok loc)
  (hloc : fs.shape loc = some (.directory .nil))

include hp hloc

/-- A name that nothing has is free, in a directory that is there. -/
theorem place_descend_free (hfits : ∀ m ∈ ns ++ [n], m.Fits)
    (hshort : (p.descend (ns ++ [n])).tooLong = false)
    (hdir : fs.shape (loc ++ ns) = some (.directory .nil))
    (hnone : fs.shape (loc ++ (ns ++ [n])) = none) :
    fs.place purpose (p.descend (ns ++ [n])) =
      .ok (.free (loc ++ ns) n
        (hfits n (List.mem_append_right ns (List.mem_singleton_self n)))) := by
  obtain ⟨links, hplace⟩ := place_descend hp (by simp) hfits hshort
  rw [← List.append_assoc] at hnone
  rw [hplace, follow_directories hloc hdir (List.cons_ne_nil n []), follow_free hdir hnone,
    if_pos rfl]

/-- Names lead to what stands there, if it is no link. -/
theorem place_descend_taken {node : Node}
    (hshort : (p.descend (ns ++ [n])).tooLong = false)
    (hnode : fs.shape (loc ++ (ns ++ [n])) = some node) (hlink : node.isLink = false) :
    fs.place purpose (p.descend (ns ++ [n])) = .ok (.taken (loc ++ (ns ++ [n]))) := by
  have hfits : ∀ m ∈ ns ++ [n], m.Fits :=
    fun m hm => fits_of_shape hnode m (List.mem_append_right loc hm)
  obtain ⟨links, hplace⟩ := place_descend hp (by simp) hfits hshort
  have hdir := shape_parent hnode
  rw [← List.append_assoc] at hnode ⊢
  rw [hplace, follow_directories hloc hdir (List.cons_ne_nil n []),
    follow_taken hdir hnode hlink]
  cases links <;> rfl

/-- Behind a name that nothing has nothing can be found. -/
theorem place_descend_notFound {rest : List Name} (hfits : ∀ m ∈ ns ++ n :: rest, m.Fits)
    (hshort : (p.descend (ns ++ n :: rest)).tooLong = false)
    (hdir : fs.shape (loc ++ ns) = some (.directory .nil))
    (hnone : fs.shape (loc ++ (ns ++ [n])) = none) (hrest : rest ≠ []) :
    fs.place purpose (p.descend (ns ++ n :: rest)) = .error .notFound := by
  obtain ⟨links, hplace⟩ := place_descend hp (by simp) hfits hshort
  have fits : n.Fits := hfits n (List.mem_append_right ns (List.mem_cons_self ..))
  rw [← List.append_assoc] at hnone
  rw [hplace, follow_directories hloc hdir (List.cons_ne_nil n rest), follow_free hdir hnone fits,
    if_neg hrest]

/-- Nothing is found behind a file either. -/
theorem place_descend_notDirectory {content : Bytes} {rest : List Name}
    (hfits : ∀ m ∈ ns ++ rest, m.Fits) (hshort : (p.descend (ns ++ rest)).tooLong = false)
    (hfile : fs.shape (loc ++ ns) = some (.file content)) (hrest : rest ≠ []) :
    fs.place purpose (p.descend (ns ++ rest)) = .error .notDirectory := by
  obtain ⟨links, hplace⟩ := place_descend hp (by simp [hrest]) hfits hshort
  have hns : ns ≠ [] := ne_nil_of_shape_ne hloc hfile (by simp)
  obtain ⟨front, last, rfl⟩ : ∃ front last, ns = front ++ [last] :=
    ⟨_, _, (List.dropLast_concat_getLast hns).symm⟩
  have hdir := shape_parent hfile
  obtain ⟨m, rest, rfl⟩ := List.exists_cons_of_ne_nil hrest
  rw [← List.append_assoc] at hfile
  rw [hplace, List.append_assoc, follow_directories hloc hdir (by simp), List.singleton_append,
    follow_taken hdir hfile rfl, follow_file hfile]

/-- What stands at names is located there, if it is no link. -/
theorem locate_descend {node : Node} (hshort : (p.descend ns).tooLong = false)
    (hnode : fs.shape (loc ++ ns) = some node) (hlink : node.isLink = false) :
    fs.locate (p.descend ns) = .ok (loc ++ ns) := by
  obtain ⟨inner, hinner⟩ := Listing.shape_eq_directory_iff.1 hloc
  obtain ⟨node', hnode', rfl⟩ := Option.map_eq_some_iff.1 hnode
  exact locate_below hp hinner hnode' (by simpa using hlink) hshort

lemma isDirectoryAt_descend (hshort : (p.descend ns).tooLong = false)
    (hdir : fs.shape (loc ++ ns) = some (.directory .nil)) :
    fs.isDirectoryAt (p.descend ns) = true :=
  isDirectoryAt_of_shape (locate_descend hp hloc hshort hdir rfl) hdir

/-- A file below a directory can be read, if its path is short enough. -/
theorem read_descend {content : Bytes} (hshort : (p.descend ns).tooLong = false)
    (hfile : fs.shape (loc ++ ns) = some (.file content)) :
    fs.read (p.descend ns) = .ok content :=
  read_eq_ok_iff.2
    ⟨_, locate_descend hp hloc hshort hfile rfl, Listing.shape_eq_file_iff.1 hfile⟩

end Below

/-- A path can be read where a file stands. -/
lemma read_eq_ok_iff_shape {content : Bytes} :
    fs.read p = .ok content ↔
      ∃ loc, fs.locate p = .ok loc ∧ fs.shape loc = some (.file content) := by
  simp only [read_eq_ok_iff, shape, Listing.shape_eq_file_iff, node?]

/-- A path that is too long has no place. -/
lemma exists_place_error (fs : FileSystem) (purpose : Purpose) (hlong : p.tooLong = true) :
    ∃ fault, fs.place purpose p = .error fault := by
  rw [place]
  split
  · exact ⟨_, rfl⟩
  · split
    · exact ⟨_, rfl⟩
    · exact ⟨_, rfl⟩

lemma existsAt_of_locate (hp : fs.locate p = .ok loc) : fs.existsAt p = true := by
  obtain ⟨node, hnode, -⟩ := exists_node_of_locate hp
  rw [existsAt, stat_of_locate hp hnode]
  rfl

lemma existsAt_of_isDirectoryAt (h : fs.isDirectoryAt p = true) : fs.existsAt p = true := by
  obtain ⟨loc, hlocate, -⟩ := isDirectoryAt_iff_shape.1 h
  exact existsAt_of_locate hlocate

/-- What exists is what is located. -/
lemma existsAt_iff : fs.existsAt p = true ↔ ∃ loc, fs.locate p = .ok loc := by
  constructor
  · intro h
    cases hlocate : fs.locate p with
    | error fault => simp [existsAt, stat, hlocate, Except.toOption] at h
    | ok loc => exact ⟨loc, rfl⟩
  · rintro ⟨loc, hlocate⟩
    exact existsAt_of_locate hlocate

end FileSystem
end Reconcile
