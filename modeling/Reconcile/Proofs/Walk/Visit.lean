import Mathlib.Data.Finset.Card
import Mathlib.Data.Set.Finite.Basic
import Reconcile.Proofs.FileSystem.Resolve
import Reconcile.Walk.Basic

/-!
# The directories in which a walk is

A `Walk.Visit` is a directory in which the walk is, with all it knows there: the names that lead to
it from the root, the levels around it and its contents.  From a visit, an entry either gives an
item of its own (`Walk.meets?`) or is a directory that is entered (`Walk.enter?`), by its name or
behind a followed link.

A followed link enters a directory that is not among the levels, and there are only finitely many
directories.  So no visit goes on forever (`Walk.visit_induction`), the number of nested links that
`Walk.run` allows is never used up (`Walk.run_congr`), and what a walk yields below a visit is put
together from what its entries give (`Walk.itemsOf_eq`).
-/

namespace Reconcile
namespace Walk

/-- A directory in which the walk is. -/
structure Visit where
  /-- The names that lead there from the root, those of followed links among them. -/
  names : List Name
  here : Level
  /-- The directories around it, from the innermost outwards. -/
  above : List Level
  inner : Listing

namespace Visit

/-- All directories in which the walk is. -/
def levels (v : Visit) : List Level := v.here :: v.above

/-- The path of the entry `n`. -/
def pathOf (v : Visit) (n : Name) : Path := v.here.path.child n

end Visit

variable (w : Walk)

/-- The relative path of an entry, unless it is left out. -/
def kept? (p : Path) : Option Path :=
  (p.relativeTo? w.root).filter fun relative => !w.config.ignore.covers relative

/-- The item that the entry `n` gives by itself. -/
def meets? (v : Visit) (n : Name) : Option Item :=
  match v.inner.find? n with
  | none => none
  | some (.file _) => (w.kept? (v.pathOf n)).map .file
  | some (.directory _) =>
    if (v.pathOf n).tooLong then
      (w.kept? (v.pathOf n)).map fun _ => .fault (.io (v.pathOf n) .nameTooLong)
    else none
  | some (.link _) =>
    if w.config.followLinks then
      match w.fs.locate (v.pathOf n) with
      | .error fault => some (.fault (.io (v.pathOf n) fault))
      | .ok loc =>
        match w.fs.node? loc with
        | some (.directory _) =>
          (v.levels.find? fun level => level.loc = loc).map fun level =>
            .fault (.loop (v.pathOf n) level.path)
        | _ => (w.kept? (v.pathOf n)).map .file
    else if w.fs.isDirectoryAt (v.pathOf n) then none
    else (w.kept? (v.pathOf n)).map .file

/-- The directory that is entered by the name `n`. -/
def enter? (v : Visit) (n : Name) : Option Visit :=
  match v.inner.find? n with
  | some (.directory inner) =>
    if (v.pathOf n).tooLong then none
    else
      (w.kept? (v.pathOf n)).map fun _ =>
        ⟨v.names ++ [n], ⟨v.here.loc ++ [n], v.pathOf n⟩, v.levels, inner⟩
  | some (.link _) =>
    if w.config.followLinks then
      match w.fs.locate (v.pathOf n) with
      | .error _ => none
      | .ok loc =>
        match w.fs.node? loc with
        | some (.directory inner) =>
          match v.levels.find? fun level => level.loc = loc with
          | some _ => none
          | none =>
            (w.kept? (v.pathOf n)).map fun _ => ⟨v.names ++ [n], ⟨loc, v.pathOf n⟩, v.levels, inner⟩
        | _ => none
    else none
  | _ => none

/-- What the walk yields in the directory of a visit and below. -/
def itemsOf (v : Visit) : List Item := w.run (w.fs.top.directoryCount + 1) v.levels v.inner

/-- What the entry `n` of a visit gives, with all that is below it. -/
def itemsUnder (v : Visit) (n : Name) : List Item :=
  (w.meets? v n).toList ++ (w.enter? v n).elim [] w.itemsOf

variable {w} {v v' : Visit} {n : Name}

/-- How a directory is entered: by its name, or behind a followed link if the walk is not in it. -/
theorem enter?_eq_some_iff :
    w.enter? v n = some v' ↔
      ∃ loc inner, v' = ⟨v.names ++ [n], ⟨loc, v.pathOf n⟩, v.levels, inner⟩ ∧
        (w.kept? (v.pathOf n)).isSome ∧
        ((v.inner.find? n = some (.directory inner) ∧ (v.pathOf n).tooLong = false ∧
            loc = v.here.loc ++ [n]) ∨
          (w.config.followLinks = true ∧ (∃ target, v.inner.find? n = some (.link target)) ∧
            w.fs.locate (v.pathOf n) = .ok loc ∧ w.fs.node? loc = some (.directory inner) ∧
            ∀ level ∈ v.levels, level.loc ≠ loc)) := by
  rw [enter?]
  constructor
  · intro h
    split at h
    · rename_i inner hfind
      split at h
      · cases h
      · rename_i hlong
        obtain ⟨relative, hkept, rfl⟩ := Option.map_eq_some_iff.1 h
        exact ⟨_, inner, rfl, by simp [hkept], Or.inl ⟨hfind, by simpa using hlong, rfl⟩⟩
    · rename_i target hfind
      split at h
      · rename_i hfollow
        split at h
        · cases h
        · rename_i loc hlocate
          split at h
          · rename_i inner hnode
            split at h
            · cases h
            · rename_i hnew
              obtain ⟨relative, hkept, rfl⟩ := Option.map_eq_some_iff.1 h
              exact ⟨loc, inner, rfl, by simp [hkept],
                Or.inr ⟨hfollow, ⟨target, hfind⟩, hlocate, hnode, by simpa using hnew⟩⟩
          · cases h
      · cases h
    · cases h
  · rintro ⟨loc, inner, rfl, hkept, ⟨hfind, hlong, rfl⟩ | ⟨hfollow, ⟨target, hfind⟩, hlocate,
      hnode, hnew⟩⟩
    · obtain ⟨relative, hkept⟩ := Option.isSome_iff_exists.1 hkept
      simp [hfind, hlong, hkept]
    · obtain ⟨relative, hkept⟩ := Option.isSome_iff_exists.1 hkept
      have hnone : (v.levels.find? fun level => level.loc = loc) = none := by simpa using hnew
      simp [hfind, hfollow, hlocate, hnode, hnone, hkept]

/-- Which entries are yielded. -/
theorem meets?_eq_file_iff {relative : Path} :
    w.meets? v n = some (.file relative) ↔
      w.kept? (v.pathOf n) = some relative ∧
        ((∃ content, v.inner.find? n = some (.file content)) ∨
          ∃ target, v.inner.find? n = some (.link target) ∧
            ((w.config.followLinks = true ∧ ∃ loc, w.fs.locate (v.pathOf n) = .ok loc ∧
                ∀ inner, w.fs.node? loc ≠ some (.directory inner)) ∨
              (w.config.followLinks = false ∧ w.fs.isDirectoryAt (v.pathOf n) = false))) := by
  rw [meets?]
  constructor
  · intro h
    split at h
    · cases h
    · rename_i content hfind
      obtain ⟨relative', hkept, hitem⟩ := Option.map_eq_some_iff.1 h
      cases hitem
      exact ⟨hkept, Or.inl ⟨content, hfind⟩⟩
    · split at h
      · obtain ⟨relative', hkept, hitem⟩ := Option.map_eq_some_iff.1 h
        cases hitem
      · cases h
    · rename_i target hfind
      split at h
      · rename_i hfollow
        split at h
        · cases h
        · rename_i loc hlocate
          split at h
          · obtain ⟨level, hlevel, hitem⟩ := Option.map_eq_some_iff.1 h
            cases hitem
          · rename_i hnode
            obtain ⟨relative', hkept, hitem⟩ := Option.map_eq_some_iff.1 h
            cases hitem
            exact ⟨hkept, Or.inr ⟨target, hfind, Or.inl ⟨hfollow, loc, hlocate, hnode⟩⟩⟩
      · rename_i hfollow
        split at h
        · cases h
        · rename_i hdir
          obtain ⟨relative', hkept, hitem⟩ := Option.map_eq_some_iff.1 h
          cases hitem
          exact ⟨hkept, Or.inr ⟨target, hfind,
            Or.inr ⟨by simpa using hfollow, by simpa using hdir⟩⟩⟩
  · rintro ⟨hkept, ⟨content, hfind⟩ | ⟨target, hfind, ⟨hfollow, loc, hlocate, hnode⟩ |
      ⟨hfollow, hdir⟩⟩⟩
    · simp [hfind, hkept]
    · simp only [hfind, hfollow, if_true, hlocate]
      rw [hkept]
      rfl
    · simp [hfind, hfollow, hdir, hkept]

/-- Which entries are faults. -/
theorem meets?_eq_fault_iff {f : WalkFault} :
    w.meets? v n = some (.fault f) ↔
      ((∃ inner, v.inner.find? n = some (.directory inner)) ∧ (w.kept? (v.pathOf n)).isSome ∧
          (v.pathOf n).tooLong = true ∧ f = .io (v.pathOf n) .nameTooLong) ∨
        ((∃ target, v.inner.find? n = some (.link target)) ∧ w.config.followLinks = true ∧
          ((∃ fault, w.fs.locate (v.pathOf n) = .error fault ∧ f = .io (v.pathOf n) fault) ∨
            ∃ loc inner level, w.fs.locate (v.pathOf n) = .ok loc ∧
              w.fs.node? loc = some (.directory inner) ∧
              v.levels.find? (fun level => level.loc = loc) = some level ∧
              f = .loop (v.pathOf n) level.path)) := by
  rw [meets?]
  constructor
  · intro h
    split at h
    · cases h
    · obtain ⟨relative, -, hitem⟩ := Option.map_eq_some_iff.1 h
      cases hitem
    · rename_i inner hfind
      split at h
      · rename_i hlong
        obtain ⟨relative, hkept, hitem⟩ := Option.map_eq_some_iff.1 h
        cases hitem
        exact Or.inl ⟨⟨inner, hfind⟩, by simp [hkept], hlong, rfl⟩
      · cases h
    · rename_i target hfind
      split at h
      · rename_i hfollow
        split at h
        · rename_i fault hlocate
          cases h
          exact Or.inr ⟨⟨target, hfind⟩, hfollow, Or.inl ⟨fault, hlocate, rfl⟩⟩
        · rename_i loc hlocate
          split at h
          · rename_i inner hnode
            obtain ⟨level, hlevel, hitem⟩ := Option.map_eq_some_iff.1 h
            cases hitem
            exact Or.inr ⟨⟨target, hfind⟩, hfollow,
              Or.inr ⟨loc, inner, level, hlocate, hnode, hlevel, rfl⟩⟩
          · obtain ⟨relative, -, hitem⟩ := Option.map_eq_some_iff.1 h
            cases hitem
      · split at h
        · cases h
        · obtain ⟨relative, -, hitem⟩ := Option.map_eq_some_iff.1 h
          cases hitem
  · rintro (⟨⟨inner, hfind⟩, hkept, hlong, rfl⟩ | ⟨⟨target, hfind⟩, hfollow,
      ⟨fault, hlocate, rfl⟩ | ⟨loc, inner, level, hlocate, hnode, hlevel, rfl⟩⟩)
    · obtain ⟨relative, hkept⟩ := Option.isSome_iff_exists.1 hkept
      simp [hfind, hlong, hkept]
    · simp [hfind, hfollow, hlocate]
    · simp [hfind, hfollow, hlocate, hnode, hlevel]

/-! ## No more nested links than directories -/

/-- The directories in which a walk at these levels is not. -/
def remaining (w : Walk) (levels : List Level) : Finset Location :=
  ([] :: w.fs.top.directories).toFinset \ (levels.map Level.loc).toFinset

lemma mem_remaining {levels : List Level} {loc : Location} {inner : Listing}
    (hdir : w.fs.node? loc = some (.directory inner)) (hnew : ∀ level ∈ levels, level.loc ≠ loc) :
    loc ∈ w.remaining levels := by
  rw [remaining, Finset.mem_sdiff, List.mem_toFinset, List.mem_toFinset]
  constructor
  · cases loc with
    | nil => exact List.mem_cons_self ..
    | cons n rest => exact List.mem_cons_of_mem _ (Listing.mem_directories hdir)
  · rw [List.mem_map]
    rintro ⟨level, hlevel, heq⟩
    exact hnew level hlevel heq

lemma card_remaining_le (levels : List Level) :
    (w.remaining levels).card ≤ w.fs.top.directoryCount + 1 := by
  calc (w.remaining levels).card
      ≤ ([] :: w.fs.top.directories).toFinset.card := Finset.card_le_card Finset.sdiff_subset
    _ ≤ ([] :: w.fs.top.directories).length := List.toFinset_card_le _
    _ = w.fs.top.directoryCount + 1 := by rw [List.length_cons, Listing.length_directories]

lemma card_remaining_mono {levels levels' : List Level} (h : levels ⊆ levels') :
    (w.remaining levels').card ≤ (w.remaining levels).card := by
  apply Finset.card_le_card
  apply Finset.sdiff_subset_sdiff (Finset.Subset.refl _)
  intro loc hloc
  rw [List.mem_toFinset] at hloc ⊢
  exact List.map_subset _ h hloc

/-- A new directory among the levels is one that does not remain. -/
lemma card_remaining_cons_lt {levels : List Level} {loc : Location} {inner : Listing}
    (hdir : w.fs.node? loc = some (.directory inner)) (hnew : ∀ level ∈ levels, level.loc ≠ loc)
    (p : Path) : (w.remaining (⟨loc, p⟩ :: levels)).card < (w.remaining levels).card := by
  apply Finset.card_lt_card
  rw [Finset.ssubset_iff_of_subset]
  · refine ⟨loc, mem_remaining hdir hnew, ?_⟩
    simp [remaining]
  · intro loc' hloc'
    simp only [remaining, List.map_cons, List.toFinset_cons, Finset.mem_sdiff,
      Finset.mem_insert, not_or] at hloc' ⊢
    exact ⟨hloc'.1, hloc'.2.2⟩

/-- Behind a followed link only new directories are entered, so it matters what `beyond` does in
those only. -/
lemma branches_congr {beyond beyond' : List Level → Listing → List Item} {here : Level}
    {above : List Level} {inner : Listing}
    (h : ∀ levels loc p inner, here :: above ⊆ levels →
      w.fs.node? loc = some (.directory inner) → (∀ level ∈ levels, level.loc ≠ loc) →
      beyond (⟨loc, p⟩ :: levels) inner = beyond' (⟨loc, p⟩ :: levels) inner) :
    w.branches beyond here above inner = w.branches beyond' here above inner := by
  induction inner generalizing here above with
  | nil => rfl
  | file n _ rest ih => rw [branches, branches, ih h]
  | link n _ rest ih =>
    rw [branches, branches, ih h]
    congr 2
    unfold linkItems
    split
    · split
      · rfl
      · rename_i loc _
        split
        · rename_i inner hdir
          split
          · rfl
          · rename_i hnone
            -- Only here `beyond` is asked, and about a directory that is not among the levels.
            rw [h _ loc _ inner (List.Subset.refl _) hdir (by simpa using hnone)]
        · rfl
    · rfl
  | directory n inner rest ihInner ihRest =>
    rw [branches, branches, ihRest h]
    have hbelow : w.branches beyond ⟨here.loc ++ [n], here.path.child n⟩ (here :: above) inner =
        w.branches beyond' ⟨here.loc ++ [n], here.path.child n⟩ (here :: above) inner := by
      refine ihInner fun levels loc p inner hlevels => h levels loc p inner ?_
      exact List.Subset.trans (List.subset_cons_self _ _) hlevels
    simp only [hbelow]

/-- A walk that is in every directory follows no link. -/
lemma run_eq_zero {levels : List Level} {inner : Listing} (h : (w.remaining levels).card = 0)
    (k : Nat) : w.run k levels inner = w.run 0 levels inner := by
  cases levels with
  | nil => cases k <;> rfl
  | cons here above =>
    cases k with
    | zero => rfl
    | succ k =>
      rw [run, run]
      congr 1
      refine branches_congr fun levels loc p inner hlevels hdir hnew => ?_
      have hmem := mem_remaining hdir fun level hlevel => hnew level (hlevels hlevel)
      rw [Finset.card_eq_zero.1 h] at hmem
      exact absurd hmem (Finset.notMem_empty _)

/-- The number of nested links that may be followed does not matter, once there are as many as
directories in which the walk is not. -/
theorem run_congr {j k : Nat} {levels : List Level} {inner : Listing}
    (hj : (w.remaining levels).card ≤ j) (hk : (w.remaining levels).card ≤ k) :
    w.run j levels inner = w.run k levels inner := by
  -- Each nested link enters a directory that remained, and leaves one fewer.
  induction j generalizing k levels inner with
  | zero => exact (run_eq_zero (Nat.le_zero.1 hj) k).symm
  | succ j ih =>
    by_cases hzero : (w.remaining levels).card = 0
    · rw [run_eq_zero hzero, run_eq_zero hzero k]
    · cases levels with
      | nil => cases k <;> rfl
      | cons here above =>
        obtain ⟨k, rfl⟩ : ∃ k', k = k' + 1 := ⟨k - 1, by omega⟩
        rw [run, run]
        congr 1
        refine branches_congr fun levels loc p inner hlevels hdir hnew => ?_
        have hmono := card_remaining_mono (w := w) hlevels
        have hlt := card_remaining_cons_lt hdir hnew p
        exact ih (by omega) (by omega)

/-! ## What the entries give -/

lemma unlessIgnored_eq (p : Path) (found : Path → List Item) :
    w.unlessIgnored p found = (w.kept? p).elim [] found := by
  unfold unlessIgnored kept?
  cases p.relativeTo? w.root with
  | none => rfl
  | some relative => cases h : w.config.ignore.covers relative <;> simp [Option.filter, h]

lemma run_eq_itemsOf {k : Nat} {levels : List Level} {inner : Listing}
    (hk : (w.remaining levels).card ≤ k) :
    w.run k levels inner = w.run (w.fs.top.directoryCount + 1) levels inner :=
  run_congr hk (card_remaining_le _)

/-- What `Walk.branches` finds under one name. -/
def branch (w : Walk) (beyond : List Level → Listing → List Item) (v : Visit) (n : Name) :
    Node → List Item
  | .file _ => w.unlessIgnored (v.pathOf n) fun relative => [.file relative]
  | .link _ => w.linkItems beyond v.levels (v.pathOf n)
  | .directory inner => w.unlessIgnored (v.pathOf n) fun _ =>
    if (v.pathOf n).tooLong then [.fault (.io (v.pathOf n) .nameTooLong)]
    else w.arrange (w.branches beyond ⟨v.here.loc ++ [n], v.pathOf n⟩ v.levels inner)

lemma branches_eq_map (beyond : List Level → Listing → List Item) (v : Visit) (l : Listing) :
    w.branches beyond v.here v.above l =
      l.toList.map fun e => (e.1, w.branch beyond v e.1 e.2) := by
  induction l using Listing.cons_induction with
  | nil => rfl
  | cons name node rest _ ih => cases node <;> exact congrArg (List.cons _) ih

/-- The items under a name are the one that its entry gives by itself and those of the directory
that it enters. -/
lemma branch_eq_itemsUnder {k : Nat} {v : Visit} {n : Name} {node : Node}
    (hk : (w.remaining v.levels).card ≤ k + 1) (hfind : v.inner.find? n = some node) :
    w.branch (w.run k) v n node = w.itemsUnder v n := by
  rw [itemsUnder, meets?, enter?, hfind]
  cases node with
  | file content =>
    rw [branch, unlessIgnored_eq]
    cases w.kept? (v.pathOf n) <;> rfl
  | directory inner =>
    simp only [branch, unlessIgnored_eq]
    cases hkept : w.kept? (v.pathOf n) with
    | none => split <;> rfl
    | some relative =>
      cases hlong : (v.pathOf n).tooLong with
      | true => rfl
      | false =>
        -- Entering by name does not use up a nested link.
        have hmono := card_remaining_mono (w := w)
          (List.subset_cons_self ⟨v.here.loc ++ [n], v.pathOf n⟩ v.levels)
        exact run_eq_itemsOf (k := k + 1) (hmono.trans hk)
  | link target =>
    simp only [branch, linkItems, unlessIgnored_eq]
    split
    · cases hlocate : w.fs.locate (v.pathOf n) with
      | error fault => rfl
      | ok loc =>
        cases hnode : w.fs.node? loc with
        | none => simp only [hnode]; cases w.kept? (v.pathOf n) <;> rfl
        | some node =>
          cases node with
          | file content => simp only [hnode]; cases w.kept? (v.pathOf n) <;> rfl
          | link target' => simp only [hnode]; cases w.kept? (v.pathOf n) <;> rfl
          | directory inner =>
            simp only [hnode]
            cases hloop : v.levels.find? fun level => level.loc = loc with
            | some level => rfl
            | none =>
              have hnew : ∀ level ∈ v.levels, level.loc ≠ loc := by
                simpa using hloop
              have hlt := card_remaining_cons_lt hnode hnew (v.pathOf n)
              cases w.kept? (v.pathOf n) with
              | none => rfl
              | some relative => exact run_eq_itemsOf (k := k) (by omega)
    · cases w.kept? (v.pathOf n) <;> split <;> rfl

/-- The items below a visit are those under each name, put together. -/
theorem itemsOf_eq {v : Visit} (hdistinct : v.inner.Distinct) :
    w.itemsOf v = w.arrange (v.inner.toList.map fun e => (e.1, w.itemsUnder v e.1)) := by
  have hcard := card_remaining_le (w := w) v.levels
  rw [itemsOf, Visit.levels, run, branches_eq_map _ v]
  congr 1
  refine List.map_congr_left fun e he => ?_
  rw [branch_eq_itemsUnder hcard (Listing.find?_of_mem_toList hdistinct he)]

/-- To show something of a visit it may be assumed of all directories that are entered from it. -/
theorem visit_induction {P : Visit → Prop}
    (step : ∀ v, (∀ n v', w.enter? v n = some v' → P v') → P v) (v : Visit) : P v := by
  -- A name leads to a smaller listing, a followed link to fewer directories that remain.
  induction hcard : (w.remaining v.levels).card using Nat.strong_induction_on generalizing v with
  | _ card ihCard =>
    induction hcount : v.inner.directoryCount using Nat.strong_induction_on generalizing v with
    | _ count ihCount =>
      subst hcard hcount
      refine step v fun n v' henter => ?_
      obtain ⟨loc, inner, rfl, -, ⟨hfind, -, -⟩ | ⟨-, -, -, hdir, hnew⟩⟩ :=
        enter?_eq_some_iff.1 henter
      · have hmono := card_remaining_mono (w := w)
          (List.subset_cons_self ⟨loc, v.pathOf n⟩ v.levels)
        rcases Nat.lt_or_eq_of_le hmono with hlt | heq
        · exact ihCard _ hlt _ rfl
        · exact ihCount _ (Listing.directoryCount_lt_of_find? hfind) _ heq rfl
      · exact ihCard _ (card_remaining_cons_lt hdir hnew _) _ rfl

end Walk
end Reconcile
