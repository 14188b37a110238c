import Reconcile.Proofs.Walk.Respelled

/-!
# Relative paths

Whatever the text of a root is, the root can be stripped off the path of every entry to which a walk
comes, and can be put back (`Walk.Strips`).  What is left are the names that lead there.  So the
paths that walks yield can be compared byte by byte, also if their roots are spelled differently,
and below two spellings of one root the same paths are yielded (`Walk.relative_paths`).  For that
the paths must fit: the names below a root may lead as far as there is room behind each spelling
(`Walk.lengthsAgree_of_reach`).
-/

namespace Reconcile

/-! ## Room for the names -/

/-- The bytes that names take behind a path, with a slash in front of each. -/
def Name.span : List Name → Nat
  | [] => 0
  | n :: ns => n.bytes.length + 1 + span ns

/-- The bytes that the longest way down into a directory takes. -/
def Listing.reach : Listing → Nat
  | nil => 0
  | file n _ rest => max (n.bytes.length + 1) rest.reach
  | link n _ rest => max (n.bytes.length + 1) rest.reach
  | directory n inner rest => max (n.bytes.length + 1 + inner.reach) rest.reach

lemma Path.length_descend_le (p : Path) (ns : List Name) :
    (p.descend ns).bytes.length ≤ p.bytes.length + Name.span ns := by
  induction ns generalizing p with
  | nil => exact Nat.le_refl _
  | cons n ns ih =>
    have hstem : p.stem.length ≤ p.bytes.length + 1 := by
      rw [Path.stem]
      split
      · exact Nat.le_succ _
      · simp
    have hrest := ih (p.child n)
    rw [Path.child_bytes, List.length_append] at hrest
    rw [Path.descend_cons, Name.span]
    omega

namespace Listing

variable {l inner : Listing} {n : Name} {node : Node}

lemma length_lt_reach (h : l.find? n = some node) : n.bytes.length + 1 ≤ l.reach := by
  induction l with
  | nil => cases h
  | file m _ rest ih | link m _ rest ih | directory m _ rest _ ih =>
    simp only [find?] at h
    simp only [reach]
    split at h
    · rename_i hm
      subst hm
      omega
    · have hrest := ih h
      omega

lemma length_add_reach_le (h : l.find? n = some (.directory inner)) :
    n.bytes.length + 1 + inner.reach ≤ l.reach := by
  induction l with
  | nil => cases h
  | file m _ rest ih | link m _ rest ih =>
    simp only [find?] at h
    simp only [reach]
    split at h
    · cases h
    · have hrest := ih h
      omega
  | directory m inner' rest _ ih =>
    simp only [find?] at h
    simp only [reach]
    split at h
    · rename_i hm
      subst hm
      cases h
      omega
    · have hrest := ih h
      omega

end Listing

namespace Walk

variable {w : Walk} {q : Path} {v u : Visit} {ns : List Name} {n : Name} {node : Node}

/-- In a walk that follows no links the names of each entry stay within the reach of the root. -/
lemma span_le_reach (hfollow : w.config.followLinks = false) (hvisit : w.visit? v ns = some u)
    (hfind : u.inner.find? n = some node) : Name.span (ns ++ [n]) ≤ v.inner.reach := by
  induction ns generalizing v with
  | nil =>
    obtain rfl := Option.some.inj hvisit
    exact Listing.length_lt_reach hfind
  | cons m ns ih =>
    obtain ⟨v', henter, hvisit'⟩ := visit?_cons_eq_some.1 hvisit
    obtain ⟨loc, inner, rfl, -, ⟨hdirectory, -, -⟩ | ⟨hfollow', -⟩⟩ := enter?_eq_some_iff.1 henter
    · have hbelow := ih hvisit'
      have hreach := Listing.length_add_reach_le hdirectory
      rw [List.cons_append, Name.span]
      simp only at hbelow
      omega
    · rw [hfollow] at hfollow'
      cases hfollow'

/-- So do the names of the files that it yields. -/
lemma span_le_reach_of_mem_yielded {fs : FileSystem} {config : Config} {root p : Path}
    (hfollow : config.followLinks = false) (hp : p ∈ yielded fs config root) :
    ∃ loc inner ns, fs.locate root = .ok loc ∧ fs.node? loc = some (.directory inner) ∧ ns ≠ [] ∧
      p = Path.ofNames ns ∧ Name.span ns ≤ inner.reach := by
  obtain ⟨items, hwalk, hp⟩ := exists_walk_of_mem_yielded hp
  obtain ⟨loc, inner, hlocate, hnode, rfl⟩ := walk_eq_ok_iff.1 hwalk
  have hroot : ((⟨fs, config, root⟩ : Walk).rootVisit loc inner).Sound ⟨fs, config, root⟩ :=
    sound_rootVisit hlocate hnode
  obtain ⟨ns, n, v, hvisit, hmeets⟩ := (mem_itemsOf_iff hroot).1 (mem_filesOf.1 hp)
  obtain ⟨hsound, hnames⟩ := hroot.visit_root rfl hvisit
  obtain ⟨hkept, hentry⟩ := meets?_eq_file_iff.1 hmeets
  obtain ⟨rfl, -⟩ := hsound.kept?_pathOf.1 hkept
  obtain ⟨node, hfind⟩ : ∃ node, v.inner.find? n = some node := by
    rcases hentry with ⟨content, hfind⟩ | ⟨target, hfind, -⟩
    · exact ⟨_, hfind⟩
    · exact ⟨_, hfind⟩
  exact ⟨loc, inner, ns ++ [n], hlocate, hnode, by simp, by rw [hnames],
    span_le_reach hfollow hvisit hfind⟩

/-- Two spellings fit equally well if both leave room for the names below the root. -/
theorem lengthsAgree_of_reach (hfollow : w.config.followLinks = false)
    (hroot : w.root.tooLong = q.tooLong)
    (hroom : ∀ loc inner, w.fs.locate w.root = .ok loc →
      w.fs.node? loc = some (.directory inner) →
      w.root.bytes.length + inner.reach < Path.lengthLimit ∧
        q.bytes.length + inner.reach < Path.lengthLimit) : w.LengthsAgree q := by
  refine ⟨hroot, fun loc inner hlocate hnode ns u n node hvisit hfind _ => ?_⟩
  obtain ⟨hsound, hnames⟩ := (sound_rootVisit hlocate hnode).visit_root rfl hvisit
  obtain ⟨hp, hq⟩ := hroom loc inner hlocate hnode
  have hspan : Name.span (ns ++ [n]) ≤ inner.reach := span_le_reach hfollow hvisit hfind
  have hlengthp := w.root.length_descend_le (ns ++ [n])
  have hlengthq := q.length_descend_le (ns ++ [n])
  rw [hsound.pathOf, hnames]
  exact Path.tooLong_eq_of_lt (by omega) (by omega)

/-! ## Stripping the root off -/

/-- The root of a walk can be stripped off and put back. -/
structure Strips (w : Walk) : Prop where
  strip : ∀ ns, ns ≠ [] → (w.root.descend ns).relativeTo? w.root = some (Path.ofNames ns)
  back : ∀ ns, ns ≠ [] → w.root.join (Path.ofNames ns) = w.root.descend ns
  /-- Below every directory that the walk enters, the root is stripped off every entry. -/
  entry : ∀ loc inner ns v n node, w.fs.locate w.root = .ok loc →
    w.fs.node? loc = some (.directory inner) → w.visit? (w.rootVisit loc inner) ns = some v →
    v.inner.find? n = some node →
    v.pathOf n = w.root.descend (ns ++ [n]) ∧
      (v.pathOf n).relativeTo? w.root = some (Path.ofNames (ns ++ [n]))
  /-- Every file there is yielded unless it is to be left out. -/
  file : ∀ loc inner ns v n content, w.fs.locate w.root = .ok loc →
    w.fs.node? loc = some (.directory inner) → w.visit? (w.rootVisit loc inner) ns = some v →
    v.inner.find? n = some (.file content) →
    w.config.ignore.covers (Path.ofNames (ns ++ [n])) = false →
    Path.ofNames (ns ++ [n]) ∈ yielded w.fs w.config w.root

/-- No entry is passed over because the root could not be stripped off. -/
theorem strips (w : Walk) : w.Strips where
  strip := fun _ => Path.strip_descend w.root
  back := fun _ => Path.join_ofNames w.root
  entry := by
    intro loc inner ns v n node hlocate hnode hvisit _
    obtain ⟨hsound, hnames⟩ := (sound_rootVisit hlocate hnode).visit_root rfl hvisit
    rw [hsound.pathOf, hnames]
    exact ⟨rfl, Path.strip_descend w.root (by simp)⟩
  file := by
    intro loc inner ns v n content hlocate hnode hvisit hfind hcovers
    have hroot := sound_rootVisit hlocate hnode
    obtain ⟨hsound, hnames⟩ := hroot.visit_root rfl hvisit
    have hkept : w.kept? (v.pathOf n) = some (Path.ofNames (ns ++ [n])) := by
      rw [hsound.kept?_pathOf, hnames]
      exact ⟨rfl, hcovers⟩
    have hmeets : w.meets? v n = some (.file (Path.ofNames (ns ++ [n]))) :=
      meets?_eq_file_iff.2 ⟨hkept, Or.inl ⟨content, hfind⟩⟩
    rw [yielded_of_walk (walk_eq_ok_iff.2 ⟨loc, inner, hlocate, hnode, rfl⟩), mem_filesOf]
    exact (mem_itemsOf_iff hroot).2 ⟨ns, n, v, hvisit, hmeets⟩

/-- Of what walks yield, two paths are the same only if they are the same byte for byte. -/
lemma key_eq_key_iff_of_mem_yielded {w w' : Walk} {p q : Path}
    (hp : p ∈ yielded w.fs w.config w.root) (hq : q ∈ yielded w'.fs w'.config w'.root) :
    p.key = q.key ↔ p = q :=
  ⟨(plain_of_mem_yielded hp).eq_of_key (plain_of_mem_yielded hq), fun h => h ▸ rfl⟩

/-- **Relative paths lose nothing.**  The root is stripped off every entry, and what is left is the
same for every spelling of the root and can be compared with what is left below any other root. -/
theorem relative_paths (w : Walk) :
    w.Strips ∧
      (∀ q, w.root.components = q.components → w.LengthsAgree q →
        Agree w.fs w.config w.root q ∧
          yielded w.fs w.config w.root = yielded w.fs w.config q ∧
          ∀ files, listFiles w.fs w.config w.root = .ok files ↔
            listFiles w.fs w.config q = .ok files) ∧
      ∀ (w' : Walk) (p q : Path), p ∈ yielded w.fs w.config w.root →
        q ∈ yielded w'.fs w'.config w'.root → (p.key = q.key ↔ p = q) := by
  refine ⟨w.strips, fun q hcomponents hlengths => ?_, fun w' p q =>
    key_eq_key_iff_of_mem_yielded⟩
  have hagree := agree_of_components hcomponents hlengths
  refine ⟨hagree, hagree.yielded_eq, fun files => ?_⟩
  rw [listFiles_eq_ok_iff, listFiles_eq_ok_iff, hagree.faultFree_iff, hagree.yielded_eq]

/-- A directory `nh` with a file `xh` in it, and another one in a directory `jh`. -/
def shelf : FileSystem where
  top := .directory ⟨[110, 104], by decide⟩
    (.directory ⟨[106, 104], by decide⟩ (.file ⟨[120, 104], by decide⟩ [1] .nil)
      (.file ⟨[120, 104], by decide⟩ [2] .nil)) .nil
  distinct := by decide
  current := []

lemma walk_shelf : walk shelf .standard ⟨[110, 104]⟩ =
    .ok [.file ⟨[106, 104, 47, 120, 104]⟩, .file ⟨[120, 104]⟩] := by cbv

/-- The two files are found just as well below `nh//.`. -/
theorem relative_paths_shelf :
    (⟨[110, 104]⟩ : Path).components = (⟨[110, 104, 47, 47, 46]⟩ : Path).components ∧
      (⟨shelf, .standard, ⟨[110, 104]⟩⟩ : Walk).LengthsAgree ⟨[110, 104, 47, 47, 46]⟩ ∧
      yielded shelf .standard ⟨[110, 104, 47, 47, 46]⟩ =
        [⟨[106, 104, 47, 120, 104]⟩, ⟨[120, 104]⟩] := by
  have hcomponents :
      (⟨[110, 104]⟩ : Path).components = (⟨[110, 104, 47, 47, 46]⟩ : Path).components := by decide
  have hlengths : (⟨shelf, .standard, ⟨[110, 104]⟩⟩ : Walk).LengthsAgree
      ⟨[110, 104, 47, 47, 46]⟩ := by
    refine lengthsAgree_of_reach rfl rfl fun loc inner hlocate hnode => ?_
    obtain rfl : [⟨[110, 104], by decide⟩] = loc := Except.ok.inj hlocate
    obtain rfl := Node.directory.inj (Option.some.inj hnode)
    decide
  obtain ⟨-, hrespelled, -⟩ := relative_paths ⟨shelf, .standard, ⟨[110, 104]⟩⟩
  obtain ⟨-, hyielded, -⟩ := hrespelled _ hcomponents hlengths
  rw [yielded_of_walk walk_shelf] at hyielded
  exact ⟨hcomponents, hlengths, hyielded.symm⟩

/-- Behind `nh` and too many slashes nothing is found. -/
theorem yielded_slashed :
    (⟨[110, 104]⟩ : Path).components = (Path.slashed ⟨[110, 104]⟩ 4096).components ∧
      yielded shelf .standard ⟨[110, 104]⟩ ≠
        yielded shelf .standard (Path.slashed ⟨[110, 104]⟩ 4096) := by
  refine ⟨(Path.components_slashed (by simp) 4096).symm, fun hyielded => ?_⟩
  rw [yielded_of_walk walk_shelf] at hyielded
  have hmem : ⟨[120, 104]⟩ ∈ yielded shelf .standard (Path.slashed ⟨[110, 104]⟩ 4096) := by
    rw [← hyielded]
    decide
  obtain ⟨items, hwalk, -⟩ := exists_walk_of_mem_yielded hmem
  obtain ⟨loc, inner, hlocate, -, -⟩ := walk_eq_ok_iff.1 hwalk
  obtain ⟨-, -, hshort, -⟩ := FileSystem.locate_eq_ok_iff.1 hlocate
  rw [Path.tooLong_slashed (by decide)] at hshort
  cases hshort

end Walk
end Reconcile
