import Reconcile.Proofs.Walk.Followed

/-!
# What a walk says about ignored entries

What a walk yields is never ignored, nor is anything above it, and the same is true of a directory
whose path is too long.  But a followed link is looked at before it is asked whether it is ignored,
and if it leads nowhere, or back to a directory in which the walk is, that is a fault.  So every
item is about an entry below kept directories, and all items are about kept entries exactly if no
ignored link fails (`Walk.items_about_kept`).
-/

namespace Reconcile

/-- The path of the entry at which a walk failed. -/
def WalkFault.path : WalkFault → Path
  | .io path _ => path
  | .loop child _ => child

namespace Walk

variable {w : Walk} {v v' : Visit} {ns : List Name} {n : Name} {item : Item} {items : List Item}

/-- The item is about the entry that the names lead to from the root. -/
def Item.About (root : Path) (ns : List Name) : Item → Prop
  | .file p => p = Path.ofNames ns
  | .fault f => f.path = root.join (Path.ofNames ns)

/-- The entry is a link that leads nowhere, or back to a directory in which the walk is. -/
def FailsAt (w : Walk) (v : Visit) (n : Name) : Prop :=
  (∃ target, v.inner.find? n = some (.link target)) ∧
    ((∃ fault, w.fs.locate (v.pathOf n) = .error fault) ∨
      ∃ loc inner, w.fs.locate (v.pathOf n) = .ok loc ∧
        w.fs.node? loc = some (.directory inner) ∧ ∃ level ∈ v.levels, level.loc = loc)

/-- No link that is followed below kept directories fails if it is ignored itself. -/
def SparesIgnored (w : Walk) : Prop :=
  w.config.followLinks = true → ∀ loc inner ns n v, w.fs.locate w.root = .ok loc →
    w.fs.node? loc = some (.directory inner) → w.visit? (w.rootVisit loc inner) ns = some v →
    w.config.ignore.covers (Path.ofNames (ns ++ [n])) = true → ¬ w.FailsAt v n

/-! ## One entry -/

/-- The item of an entry is about it, and only a link that fails is reported although it is
ignored. -/
lemma about_of_meets? (h : v.Sound w) (hmeets : w.meets? v n = some item) :
    item.About w.root (v.names ++ [n]) ∧
      (w.config.ignore.covers (Path.ofNames (v.names ++ [n])) = false ∨
        w.config.followLinks = true ∧ w.FailsAt v n ∧ ∃ f, item = .fault f) := by
  have hpath : v.pathOf n = w.root.join (Path.ofNames (v.names ++ [n])) := by
    rw [Path.join_ofNames w.root (by simp), h.pathOf]
  cases item with
  | file p =>
    obtain ⟨hp, hcovers⟩ := h.kept?_pathOf.1 (meets?_eq_file_iff.1 hmeets).1
    exact ⟨hp, Or.inl hcovers⟩
  | fault f =>
    rcases meets?_eq_fault_iff.1 hmeets with ⟨-, hkept, -, rfl⟩ |
      ⟨hlink, hfollow, ⟨fault, hlocate, rfl⟩ | ⟨loc, inner, level, hlocate, hnode, hlevel, rfl⟩⟩
    · exact ⟨hpath, Or.inl (h.isSome_kept?.1 hkept)⟩
    · exact ⟨hpath, Or.inr ⟨hfollow, ⟨hlink, Or.inl ⟨fault, hlocate⟩⟩, _, rfl⟩⟩
    · have hloop := List.find?_some hlevel
      exact ⟨hpath, Or.inr ⟨hfollow, ⟨hlink, Or.inr ⟨loc, inner, hlocate, hnode, level,
        List.mem_of_find?_eq_some hlevel, by simpa using hloop⟩⟩, _, rfl⟩⟩

/-- A followed link that fails is reported. -/
lemma exists_meets?_of_failsAt (hfollow : w.config.followLinks = true) (hfails : w.FailsAt v n) :
    ∃ f, w.meets? v n = some (.fault f) := by
  obtain ⟨⟨target, hfind⟩, ⟨fault, hlocate⟩ | ⟨loc, inner, hlocate, hnode, level, hlevel, hloc⟩⟩ :=
    hfails
  · exact ⟨_, meets?_of_not_located hfollow hfind hlocate⟩
  · obtain ⟨level', -, -, hmeets⟩ := meets?_of_loop hfollow hfind hlocate hnode hlevel hloc
    exact ⟨_, hmeets⟩

/-- Names are determined by the entry that an item is about. -/
lemma Item.About.names_eq {root : Path} (hroot : root.bytes ≠ []) {ms : List Name} (hms : ms ≠ [])
    (hns : ns ≠ []) (h : item.About root ms) (h' : item.About root ns) : ms = ns := by
  cases item with
  | file p => exact Path.ofNames_injective (h.symm.trans h')
  | fault f =>
    have hpath : root.join (Path.ofNames ms) = root.join (Path.ofNames ns) := h.symm.trans h'
    rw [Path.join_ofNames root hms, Path.join_ofNames root hns] at hpath
    exact Path.ofNames_injective (Path.descend_injective hroot hms hns hpath)

/-! ## All items -/

/-- Every item is about an entry below kept directories. -/
lemma exists_about (hwalk : walk w.fs w.config w.root = .ok items) (hitem : item ∈ items) :
    ∃ ns n, item.About w.root (ns ++ [n]) ∧ w.config.ignore.Keeps ns ∧
      (w.config.ignore.covers (Path.ofNames (ns ++ [n])) = false ∨
        w.config.followLinks = true ∧ (∃ f, item = .fault f) ∧
          ∃ loc inner v, w.fs.locate w.root = .ok loc ∧ w.fs.node? loc = some (.directory inner) ∧
            w.visit? (w.rootVisit loc inner) ns = some v ∧ w.FailsAt v n) := by
  obtain ⟨loc, inner, hloc, hnode, rfl⟩ := walk_eq_ok_iff.1 hwalk
  have hsound : (w.rootVisit loc inner).Sound w := sound_rootVisit hloc hnode
  obtain ⟨ns, n, v, hvisit, hmeets⟩ := (mem_itemsOf_iff hsound).1 hitem
  obtain ⟨hsound', rfl⟩ := hsound.visit_root rfl hvisit
  obtain ⟨habout, hcovers⟩ := about_of_meets? hsound' hmeets
  refine ⟨v.names, n, habout, keeps_of_visit? hsound rfl hvisit, hcovers.imp_right ?_⟩
  rintro ⟨hfollow, hfails, hfault⟩
  exact ⟨hfollow, hfault, loc, inner, v, hloc, hnode, hvisit, hfails⟩

/-- **Only links that fail are reported although they are ignored.**  Whatever is yielded is about
an entry below kept directories, which is kept itself unless it is a link that fails; and all items
are about kept entries exactly if no ignored link fails. -/
theorem items_about_kept (hwalk : walk w.fs w.config w.root = .ok items) :
    (∀ item ∈ items, ∃ ns n, item.About w.root (ns ++ [n]) ∧ w.config.ignore.Keeps ns ∧
      (w.config.ignore.Keeps (ns ++ [n]) ∨ w.config.followLinks = true ∧ ∃ f, item = .fault f)) ∧
    ((∀ item ∈ items, ∃ ns, ns ≠ [] ∧ item.About w.root ns ∧ w.config.ignore.Keeps ns) ↔
      w.SparesIgnored) := by
  refine ⟨fun item hitem => ?_, fun hkept => ?_, fun hspares item hitem => ?_⟩
  · obtain ⟨ns, n, habout, hkeeps, hcovers | ⟨hfollow, hfault, -⟩⟩ := exists_about hwalk hitem
    · exact ⟨ns, n, habout, hkeeps, Or.inl (Ignore.keeps_concat.2 ⟨hkeeps, hcovers⟩)⟩
    · exact ⟨ns, n, habout, hkeeps, Or.inr ⟨hfollow, hfault⟩⟩
  · -- A link that fails gives an item, and the item tells which names it is about.
    intro hfollow loc inner ns n v hloc hnode hvisit hcovers hfails
    obtain ⟨loc', inner', hloc', hnode', rfl⟩ := walk_eq_ok_iff.1 hwalk
    have hsound : (w.rootVisit loc inner).Sound w := sound_rootVisit hloc hnode
    obtain rfl := Except.ok.inj (hloc.symm.trans hloc')
    obtain rfl := hsound.inner_eq hnode'
    obtain ⟨f, hmeets⟩ := exists_meets?_of_failsAt hfollow hfails
    obtain ⟨ms, hms, habout, hkeeps⟩ :=
      hkept _ ((mem_itemsOf_iff hsound).2 ⟨ns, n, v, hvisit, hmeets⟩)
    obtain ⟨hsound', rfl⟩ := hsound.visit_root rfl hvisit
    obtain rfl := habout.names_eq hsound.root hms (by simp) (about_of_meets? hsound' hmeets).1
    rw [(Ignore.keeps_concat.1 hkeeps).2] at hcovers
    cases hcovers
  · obtain ⟨ns, n, habout, hkeeps, hcovers | ⟨hfollow, -, loc, inner, v, hloc, hnode, hvisit,
      hfails⟩⟩ := exists_about hwalk hitem
    · exact ⟨ns ++ [n], by simp, habout, Ignore.keeps_concat.2 ⟨hkeeps, hcovers⟩⟩
    · refine ⟨ns ++ [n], by simp, habout, Ignore.keeps_concat.2 ⟨hkeeps, ?_⟩⟩
      rw [← Bool.not_eq_true]
      exact fun hcovers =>
        hspares hfollow loc inner ns n v hloc hnode hvisit hcovers hfails

/-- A walk that follows links, and is to leave out `b` and `c`. -/
def pruned : Walk := ⟨tangled, ⟨⟨[⟨[98]⟩, ⟨[99]⟩], []⟩, true, true⟩, ⟨[114]⟩⟩

lemma walk_pruned :
    walk pruned.fs pruned.config pruned.root =
      .ok [.file ⟨[97, 47, 103]⟩, .fault (.io ⟨[114, 47, 98]⟩ .notFound),
        .fault (.loop ⟨[114, 47, 99]⟩ ⟨[114]⟩), .file ⟨[100, 47, 103]⟩, .file ⟨[102]⟩] := by cbv

/-- Both links are ignored, and both are reported; because of the first one nothing is listed. -/
theorem reports_ignored_pruned :
    pruned.config.ignore.covers ⟨[98]⟩ = true ∧ pruned.config.ignore.covers ⟨[99]⟩ = true ∧
      (∃ items, walk pruned.fs pruned.config pruned.root = .ok items ∧
        .fault (.io ⟨[114, 47, 98]⟩ .notFound) ∈ items ∧
        .fault (.loop ⟨[114, 47, 99]⟩ ⟨[114]⟩) ∈ items ∧
        ¬ ∀ item ∈ items, ∃ ns, ns ≠ [] ∧ item.About pruned.root ns ∧
          pruned.config.ignore.Keeps ns) ∧
      listFiles pruned.fs pruned.config pruned.root =
        .error (.walk (.io ⟨[114, 47, 98]⟩ .notFound)) := by
  refine ⟨rfl, rfl, ⟨_, walk_pruned, by simp, by simp, fun hkept => ?_⟩, ?_⟩
  · obtain ⟨ns, hns, habout, hkeeps⟩ :=
      hkept (.fault (.io ⟨[114, 47, 98]⟩ .notFound)) (by simp)
    have hb : Item.About pruned.root [⟨[98], by decide⟩]
        (.fault (.io ⟨[114, 47, 98]⟩ .notFound)) := rfl
    obtain rfl := habout.names_eq (by simp [pruned]) hns (by simp) hb
    have hcovers := hkeeps _ hns (List.prefix_refl _)
    cases hcovers
  · rw [listFiles, walk_pruned]
    rfl

/-- The links `b` and `c` fail, so not all items are about kept entries. -/
theorem items_about_kept_pruned :
    ∃ items, walk pruned.fs pruned.config pruned.root = .ok items ∧
      ((∀ item ∈ items, ∃ ns, ns ≠ [] ∧ item.About pruned.root ns ∧
        pruned.config.ignore.Keeps ns) ↔ pruned.SparesIgnored) :=
  ⟨_, walk_pruned, (items_about_kept walk_pruned).2⟩

end Walk
end Reconcile
