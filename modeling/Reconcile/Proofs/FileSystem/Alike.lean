import Reconcile.Proofs.FileSystem.Grow

/-!
# Trees that differ in the order of entries

A directory hands out its entries in some order, and so does each directory below it
(`Listing.Reordered`).  Names are distinct, so the same stands at every location whatever the order
is (`Listing.Reordered.shape_eq`).  Trees in which the same stands everywhere are
`FileSystem.Alike`, and no path tells one of them from the other: it is located at the same place,
and reads the same.
-/

namespace Reconcile

namespace Listing

variable {top top' rest inner : Listing} {name n : Name} {node : Node}

/-- The same entries in another order, here and in each directory below. -/
inductive Reordered : Listing → Listing → Prop
  | nil : Reordered .nil .nil
  | file {rest rest' : Listing} (name : Name) (content : Bytes) :
      Reordered rest rest' → Reordered (.file name content rest) (.file name content rest')
  | link {rest rest' : Listing} (name : Name) (target : Path) :
      Reordered rest rest' → Reordered (.link name target rest) (.link name target rest')
  | directory {inner inner' rest rest' : Listing} (name : Name) :
      Reordered inner inner' → Reordered rest rest' →
      Reordered (.directory name inner rest) (.directory name inner' rest')
  /-- Two neighbours change places. -/
  | swap (m n : Name) (first second : Node) (rest : Listing) :
      Reordered (cons m first (cons n second rest)) (cons n second (cons m first rest))
  | trans {top mid top' : Listing} : Reordered top mid → Reordered mid top' → Reordered top top'

namespace Reordered

lemma refl (top : Listing) : top.Reordered top := by
  induction top with
  | nil => exact .nil
  | file name content rest ih => exact .file name content ih
  | link name target rest ih => exact .link name target ih
  | directory name inner rest ihInner ihRest => exact .directory name ihInner ihRest

/-- The same names are free. -/
lemma find?_eq_none_iff (h : top.Reordered top') (n : Name) :
    top.find? n = none ↔ top'.find? n = none := by
  induction h with
  | nil => rfl
  | file name content _ ih => simp only [find?]; split <;> simp [ih]
  | link name target _ ih => simp only [find?]; split <;> simp [ih]
  | directory name _ _ _ ih => simp only [find?]; split <;> simp [ih]
  | swap k m first second rest =>
    simp only [find?_cons]
    split <;> split <;> simp
  | trans _ _ ih ih' => exact ih.trans ih'

/-- Names stay distinct. -/
lemma distinct (h : top.Reordered top') (hdistinct : top.Distinct) : top'.Distinct := by
  induction h with
  | nil => trivial
  | file name content hrest ih | link name target hrest ih =>
    exact ⟨(hrest.find?_eq_none_iff name).1 hdistinct.1, ih hdistinct.2⟩
  | directory name _ hrest ihInner ihRest =>
    exact ⟨(hrest.find?_eq_none_iff name).1 hdistinct.1, ihInner hdistinct.2.1,
      ihRest hdistinct.2.2⟩
  | swap m n first second rest =>
    obtain ⟨hm, hfirst, htail⟩ := distinct_cons.1 hdistinct
    obtain ⟨hn, hsecond, hrest⟩ := distinct_cons.1 htail
    rw [find?_cons] at hm
    split at hm
    · cases hm
    · rename_i hne
      refine distinct_cons.2 ⟨?_, hsecond, distinct_cons.2 ⟨hm, hfirst, hrest⟩⟩
      rw [find?_cons, if_neg (Ne.symm hne)]
      exact hn
  | trans _ _ ih ih' => exact ih' (ih hdistinct)

end Reordered

/-- The directory with these entries. -/
def ofEntries (entries : List (Name × Node)) : Listing :=
  entries.foldr (fun e rest => cons e.1 e.2 rest) nil

lemma ofEntries_toList (top : Listing) : ofEntries top.toList = top := by
  induction top using cons_induction with
  | nil => rfl
  | cons name node rest _ ih =>
    rw [toList_cons, ofEntries, List.foldr_cons, ← ofEntries, ih]

namespace Reordered

lemma cons_congr {rest rest' : Listing} (name : Name) (node : Node) (h : rest.Reordered rest') :
    (cons name node rest).Reordered (cons name node rest') := by
  cases node with
  | file content => exact .file name content h
  | link target => exact .link name target h
  | directory inner => exact .directory name (refl inner) h

/-- The entries of a directory may be put in any order. -/
theorem of_perm (h : top.toList.Perm top'.toList) : top.Reordered top' := by
  have hentries : ∀ {entries entries' : List (Name × Node)}, entries.Perm entries' →
      (ofEntries entries).Reordered (ofEntries entries') := by
    intro entries entries' hperm
    induction hperm with
    | nil => exact .nil
    | cons e _ ih => exact cons_congr e.1 e.2 ih
    | swap e e' rest => exact .swap e'.1 e.1 e'.2 e.2 (ofEntries rest)
    | trans _ _ ih ih' => exact ih.trans ih'
  rw [← ofEntries_toList top, ← ofEntries_toList top']
  exact hentries h

end Reordered

/-- Below another name the first entry is not seen. -/
lemma shape_cons_of_name_ne (h : name ≠ n) (ns : Location) :
    (cons name node rest).shape (n :: ns) = rest.shape (n :: ns) :=
  shape_cons_congr (by rw [find?_cons, if_neg h]) ns

/-- Below its own name the rest of the entries is not seen. -/
lemma shape_cons_self (name : Name) (node : Node) (rest rest' : Listing) (ns : Location) :
    (cons name node rest).shape (name :: ns) = (cons name node rest').shape (name :: ns) :=
  shape_cons_congr (by rw [find?_cons, find?_cons, if_pos rfl, if_pos rfl]) ns

/-- The first entry may stay what it is. -/
lemma shape_cons_eq {rest' : Listing} (h : ∀ loc, rest.shape loc = rest'.shape loc) (name : Name)
    (node : Node) (loc : Location) :
    (cons name node rest).shape loc = (cons name node rest').shape loc := by
  cases loc with
  | nil => rfl
  | cons n ns =>
    by_cases hname : name = n
    · subst hname
      exact shape_cons_self name node rest rest' ns
    · rw [shape_cons_of_name_ne hname, shape_cons_of_name_ne hname, h]

/-- Whatever the order of the entries is, the same stands at each location. -/
theorem Reordered.shape_eq (h : top.Reordered top') (hdistinct : top.Distinct) (loc : Location) :
    top.shape loc = top'.shape loc := by
  induction h generalizing loc with
  | nil => rfl
  | file name content _ ih => exact shape_cons_eq (ih hdistinct.2) name (.file content) loc
  | link name target _ ih => exact shape_cons_eq (ih hdistinct.2) name (.link target) loc
  | @directory inner inner' rest rest' name _ _ ihInner ihRest =>
    obtain ⟨-, hinner, hrest⟩ := hdistinct
    calc (cons name (.directory inner) rest).shape loc
        = (cons name (.directory inner) rest').shape loc := shape_cons_eq (ihRest hrest) _ _ loc
      _ = (cons name (.directory inner') rest').shape loc := by
        cases loc with
        | nil => rfl
        | cons n ns =>
          by_cases hname : name = n
          · subst hname
            have hfind : ∀ below : Listing, (cons name (.directory below) rest').find? name =
                some (.directory below) := fun below => by rw [find?_cons, if_pos rfl]
            rw [shape_cons_directory (hfind inner), shape_cons_directory (hfind inner'),
              ihInner hinner]
          · rw [shape_cons_of_name_ne hname, shape_cons_of_name_ne hname]
  | swap m n first second rest =>
    -- As the names are distinct, at most one of the two entries is the one that is looked up.
    have hne : n ≠ m := by
      obtain ⟨hm, -, -⟩ := distinct_cons.1 hdistinct
      intro heq
      rw [find?_cons, if_pos heq] at hm
      cases hm
    cases loc with
    | nil => rfl
    | cons k ns =>
      refine shape_cons_congr ?_ ns
      simp only [find?_cons]
      by_cases hk : m = k
      · rw [if_pos hk, if_pos hk, if_neg fun heq => hne (heq.trans hk.symm)]
      · rw [if_neg hk, if_neg hk]
  | trans h _ ih ih' => exact (ih hdistinct loc).trans (ih' (h.distinct hdistinct) loc)

end Listing

namespace FileSystem

variable {fs fs' : FileSystem} {p : Path} {loc : Location}

/-- The same trees up to the order of entries, with relative paths that start at the same place. -/
structure Reordered (fs fs' : FileSystem) : Prop where
  top : fs.top.Reordered fs'.top
  current : fs.current = fs'.current

/-- The same stands at every location, and relative paths start at the same place. -/
structure Alike (fs fs' : FileSystem) : Prop where
  shape : ∀ loc, fs.shape loc = fs'.shape loc
  current : fs.current = fs'.current

lemma Reordered.alike (h : fs.Reordered fs') : fs.Alike fs' where
  shape := h.top.shape_eq fs.distinct
  current := h.current

namespace Alike

lemma refl (fs : FileSystem) : fs.Alike fs := ⟨fun _ => rfl, rfl⟩

lemma symm (h : fs.Alike fs') : fs'.Alike fs := ⟨fun loc => (h.shape loc).symm, h.current.symm⟩

/-- Either of the trees is one that the other could have grown to. -/
lemma extended (h : fs.Alike fs') : fs.Extends fs' where
  current := h.current.symm
  directories loc hdir := by rwa [← h.shape]
  files loc content hfile := ⟨content, by rwa [← h.shape]⟩
  links loc target := by rw [h.shape]

lemma file_iff (h : fs.Alike fs') {content : Bytes} :
    fs.node? loc = some (.file content) ↔ fs'.node? loc = some (.file content) := by
  have hshape : fs.top.shape loc = fs'.top.shape loc := h.shape loc
  rw [node?, node?, ← Listing.shape_eq_file_iff, ← Listing.shape_eq_file_iff, hshape]

lemma link_iff (h : fs.Alike fs') {target : Path} :
    fs.node? loc = some (.link target) ↔ fs'.node? loc = some (.link target) := by
  have hshape : fs.top.shape loc = fs'.top.shape loc := h.shape loc
  rw [node?, node?, ← Listing.shape_eq_link_iff, ← Listing.shape_eq_link_iff, hshape]

lemma directory_iff (h : fs.Alike fs') :
    (∃ inner, fs.node? loc = some (.directory inner)) ↔
      ∃ inner, fs'.node? loc = some (.directory inner) := by
  have hshape : fs.top.shape loc = fs'.top.shape loc := h.shape loc
  simp only [node?, ← Listing.shape_eq_directory_iff, hshape]

/-- Paths are located at the same places. -/
theorem locate_iff (h : fs.Alike fs') : fs.locate p = .ok loc ↔ fs'.locate p = .ok loc :=
  ⟨h.extended.locate, h.symm.extended.locate⟩

lemma exists_error_iff (h : fs.Alike fs') :
    (∃ fault, fs.locate p = .error fault) ↔ ∃ fault, fs'.locate p = .error fault := by
  cases hlocate : fs.locate p with
  | ok loc => simp [h.locate_iff.1 hlocate]
  | error fault =>
    cases hlocate' : fs'.locate p with
    | ok loc =>
      rw [h.locate_iff.2 hlocate'] at hlocate
      cases hlocate
    | error fault' => simp

theorem read_iff (h : fs.Alike fs') {content : Bytes} :
    fs.read p = .ok content ↔ fs'.read p = .ok content := by
  simp only [read_eq_ok_iff_shape, h.locate_iff, h.shape]

lemma isFileAt_eq (h : fs.Alike fs') (p : Path) : fs.isFileAt p = fs'.isFileAt p := by
  rw [Bool.eq_iff_iff, isFileAt_iff, isFileAt_iff]
  simp only [h.read_iff]

lemma existsAt_eq (h : fs.Alike fs') (p : Path) : fs.existsAt p = fs'.existsAt p := by
  rw [Bool.eq_iff_iff, existsAt_iff, existsAt_iff]
  simp only [h.locate_iff]

lemma isDirectoryAt_eq (h : fs.Alike fs') (p : Path) :
    fs.isDirectoryAt p = fs'.isDirectoryAt p := by
  rw [Bool.eq_iff_iff, isDirectoryAt_iff_shape, isDirectoryAt_iff_shape]
  simp only [h.locate_iff, h.shape]

end Alike

end FileSystem
end Reconcile
