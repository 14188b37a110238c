import Reconcile.Proofs.Walk.Unfollowed

/-!
# Walks that follow links

A walk that follows links goes through the unfolding of a graph with cycles.  It ends all the same:
a followed link enters a directory only if the walk is not in it, so the visits are finitely many.
A link that cannot be located, or leads back to a directory in which the walk is, is a fault
whether it is left out or not.  Where there is no fault every directory that names lead to through
links is visited (`Walk.exists_visit?_of_leads`), and the files are what the kept names stand for
when links are followed (`Walk.file_mem_iff_of_followed`).  `Walk.followed_exact` says all of it of
the walk from its root.
-/

namespace Reconcile
namespace Walk

open FileSystem (Leads)

variable {w : Walk} {v v' : Visit} {ns : List Name} {n : Name}

/-! ## Links that are faults -/

/-- A link that cannot be located is a fault. -/
lemma meets?_of_not_located (hfollow : w.config.followLinks = true) {target : Path}
    (hfind : v.inner.find? n = some (.link target)) {fault : Fault}
    (hlocate : w.fs.locate (v.pathOf n) = .error fault) :
    w.meets? v n = some (.fault (.io (v.pathOf n) fault)) :=
  meets?_eq_fault_iff.2 (Or.inr ⟨⟨target, hfind⟩, hfollow, Or.inl ⟨fault, hlocate, rfl⟩⟩)

/-- A link to a directory in which the walk is is a fault. -/
lemma meets?_of_loop (hfollow : w.config.followLinks = true) {target : Path}
    (hfind : v.inner.find? n = some (.link target)) {loc : Location} {inner : Listing}
    (hlocate : w.fs.locate (v.pathOf n) = .ok loc)
    (hnode : w.fs.node? loc = some (.directory inner)) {level : Level} (hlevel : level ∈ v.levels)
    (hloc : level.loc = loc) :
    ∃ level' ∈ v.levels, level'.loc = loc ∧
      w.meets? v n = some (.fault (.loop (v.pathOf n) level'.path)) := by
  cases hloop : v.levels.find? fun level => level.loc = loc with
  | none =>
    have hnew := List.find?_eq_none.1 hloop level hlevel
    simp [hloc] at hnew
  | some level' =>
    refine ⟨level', List.mem_of_find?_eq_some hloop, by simpa using List.find?_some hloop, ?_⟩
    exact meets?_eq_fault_iff.2 (Or.inr ⟨⟨target, hfind⟩, hfollow,
      Or.inr ⟨loc, inner, level', hlocate, hnode, hloop, rfl⟩⟩)

/-- An entry that is yielded stands for something that is no directory. -/
lemma exists_resolves_of_file (h : v.Sound w) (hfollow : w.config.followLinks = true) {p : Path}
    (hmeets : w.meets? v n = some (.file p)) :
    ∃ node, w.fs.Resolves (v.pathOf n) node ∧ node.isDirectory = false := by
  rcases (meets?_eq_file_iff.1 hmeets).2 with
    ⟨content, hfind⟩ | ⟨target, hfind, ⟨-, loc, hlocate, hnode⟩ | ⟨hstay, -⟩⟩
  · obtain ⟨k, hleads⟩ := h.leads_pathOf (.of_find? h.node hfind rfl)
    exact ⟨.file content, ⟨k, _, hleads, Listing.lookup_concat.2 ⟨_, h.node, hfind⟩⟩, rfl⟩
  · obtain ⟨node, hloc, -⟩ := FileSystem.exists_node_of_locate hlocate
    refine ⟨node, FileSystem.resolves_of_stat (FileSystem.stat_of_locate hlocate hloc), ?_⟩
    cases node with
    | directory inner => exact absurd hloc (hnode inner)
    | file content => rfl
    | link target' => rfl
  · rw [hstay] at hfollow
    cases hfollow

/-! ## Where no fault is met -/

section FaultFree

variable (hfollow : w.config.followLinks = true) (h : v.Sound w) (hnil : v.names = [])
  (hfree : ∀ f, .fault f ∉ w.itemsOf v)

include h hfree

/-- A visit below one without faults meets none. -/
lemma meets?_ne_fault (hvisit : w.visit? v ns = some v') (f : WalkFault) :
    w.meets? v' n ≠ some (.fault f) :=
  fun hmeets => hfree f ((mem_itemsOf_iff h).2 ⟨ns, n, v', hvisit, hmeets⟩)

include hfollow

/-- A followed link is located where it leads. -/
lemma locate_of_jump (hvisit : w.visit? v ns = some v') {target : Path}
    (hfind : v'.inner.find? n = some (.link target)) {k : Nat} {loc : Location}
    (hleads : Leads w.fs.top k v'.here.loc [.enter n] loc) :
    w.fs.locate (v'.pathOf n) = .ok loc := by
  cases hlocate : w.fs.locate (v'.pathOf n) with
  | error fault =>
    exact absurd (meets?_of_not_located hfollow hfind hlocate) (meets?_ne_fault h hfree hvisit _)
  | ok loc' => rw [(h.visit hvisit).1.eq_of_locate hleads hlocate]

include hnil

/-- Every kept directory that names lead to through links is visited. -/
theorem exists_visit?_of_leads {k : Nat} {loc : Location} {inner : Listing}
    (hleads : Leads w.fs.top k v.here.loc (ns.map .enter) loc)
    (hnode : w.fs.node? loc = some (.directory inner)) (hkeeps : w.config.ignore.Keeps ns) :
    ∃ v', w.visit? v ns = some v' ∧ v'.here.loc = loc := by
  induction ns using List.reverseRecOn generalizing k loc inner with
  | nil =>
    cases hleads
    exact ⟨v, rfl, rfl⟩
  | append_singleton ns n ih =>
    rw [List.map_append, List.map_singleton] at hleads
    -- Where the last name is looked up there is a directory, which is visited.
    obtain ⟨mid, k₁, k₂, -, h₁, h₂⟩ := hleads.split
    obtain ⟨outer, houter⟩ := h₂.exists_directory
    obtain ⟨hkeeps', hkept⟩ := Ignore.keeps_concat.1 hkeeps
    obtain ⟨v', hvisit, hloc⟩ := ih h₁ houter hkeeps'
    obtain ⟨hsound, hnames⟩ := h.visit_root hnil hvisit
    have hkept' : (w.kept? (v'.pathOf n)).isSome := by
      rw [hsound.isSome_kept?, hnames]
      exact hkept
    rw [← hloc] at h₂
    obtain ⟨inner', hinner', hentry⟩ := h₂.enter_cases
    rw [← hsound.inner_eq hinner'] at hentry
    rcases hentry with ⟨node, hfind, -, rfl⟩ | ⟨target, hfind⟩
    · -- A directory that is entered by its name has a path that is short enough.
      obtain ⟨inner'', hinner'', hfind'⟩ := Listing.lookup_concat.1 hnode
      rw [← hsound.inner_eq hinner''] at hfind'
      have hlong : (v'.pathOf n).tooLong = false := by
        by_contra hlong
        exact meets?_ne_fault h hfree hvisit _ (meets?_eq_fault_iff.2
          (Or.inl ⟨⟨inner, hfind'⟩, hkept', by simpa using hlong, rfl⟩))
      exact ⟨_, visit?_concat_eq_some.2 ⟨v', hvisit, enter?_eq_some_iff.2
        ⟨_, inner, rfl, hkept', Or.inl ⟨hfind', hlong, rfl⟩⟩⟩, rfl⟩
    · -- A link does not lead back to a directory in which the walk is.
      have hlocate := locate_of_jump hfollow h hfree hvisit hfind h₂
      have hnew : ∀ level ∈ v'.levels, level.loc ≠ loc := by
        intro level hlevel heq
        obtain ⟨level', -, -, hmeets⟩ := meets?_of_loop hfollow hfind hlocate hnode hlevel heq
        exact meets?_ne_fault h hfree hvisit _ hmeets
      exact ⟨_, visit?_concat_eq_some.2 ⟨v', hvisit, enter?_eq_some_iff.2
        ⟨loc, inner, rfl, hkept', Or.inr ⟨hfollow, ⟨target, hfind⟩, hlocate, hnode, hnew⟩⟩⟩, rfl⟩

/-- The files are what the kept names stand for when links are followed. -/
theorem file_mem_iff_of_followed {p : Path} :
    .file p ∈ w.itemsOf v ↔
      ∃ ns, ns ≠ [] ∧ p = Path.ofNames ns ∧ w.config.ignore.Keeps ns ∧
        ∃ node, w.fs.Resolves (w.root.descend ns) node ∧ node.isDirectory = false := by
  have hroot : v.here.path = w.root := by
    rw [h.path, hnil, Path.descend_nil]
  rw [mem_itemsOf_iff h]
  constructor
  · rintro ⟨ns, n, v', hvisit, hmeets⟩
    obtain ⟨hsound, hnames⟩ := h.visit_root hnil hvisit
    obtain ⟨hkept, -⟩ := meets?_eq_file_iff.1 hmeets
    rw [hsound.kept?_pathOf, hnames] at hkept
    refine ⟨ns ++ [n], by simp, hkept.1,
      Ignore.keeps_concat.2 ⟨keeps_of_visit? h hnil hvisit, hkept.2⟩, ?_⟩
    rw [← hnames, ← hsound.pathOf]
    exact exists_resolves_of_file hsound hfollow hmeets
  · rintro ⟨ns, hne, rfl, hkeeps, node, hresolves, hdirectory⟩
    rw [← hroot, FileSystem.resolves_descend_iff h.located hne] at hresolves
    obtain ⟨k, loc, hleads, hnode⟩ := hresolves
    rw [← List.dropLast_concat_getLast hne] at hleads hkeeps ⊢
    generalize ns.dropLast = ms at hleads hkeeps ⊢
    generalize ns.getLast hne = n at hleads hkeeps ⊢
    rw [List.map_append, List.map_singleton] at hleads
    obtain ⟨mid, k₁, k₂, -, h₁, h₂⟩ := hleads.split
    obtain ⟨outer, houter⟩ := h₂.exists_directory
    obtain ⟨hkeeps', hkept⟩ := Ignore.keeps_concat.1 hkeeps
    obtain ⟨v', hvisit, rfl⟩ := exists_visit?_of_leads hfollow h hnil hfree h₁ houter hkeeps'
    obtain ⟨hsound, hnames⟩ := h.visit_root hnil hvisit
    refine ⟨ms, n, v', hvisit, meets?_eq_file_iff.2 ⟨?_, ?_⟩⟩
    · rw [hsound.kept?_pathOf, hnames]
      exact ⟨rfl, hkept⟩
    · obtain ⟨inner, hinner, hentry⟩ := h₂.enter_cases
      rw [← hsound.inner_eq hinner] at hentry
      rcases hentry with ⟨node', hfind, hlink, rfl⟩ | ⟨target, hfind⟩
      -- An entry that is no link is yielded as it stands, a link for what it leads to.
      · have hnode' : w.fs.node? (v'.here.loc ++ [n]) = some node' :=
          Listing.lookup_concat.2 ⟨_, hsound.node, hfind⟩
        rw [hnode', Option.some.injEq] at hnode
        subst hnode
        cases node' with
        | file content => exact Or.inl ⟨content, hfind⟩
        | directory inner' => simp [Node.isDirectory] at hdirectory
        | link target => simp [Node.isLink] at hlink
      · have hlocate := locate_of_jump hfollow h hfree hvisit hfind h₂
        refine Or.inr ⟨target, hfind, Or.inl ⟨hfollow, loc, hlocate, fun inner' hinner' => ?_⟩⟩
        rw [hnode, Option.some.injEq] at hinner'
        simp [hinner', Node.isDirectory] at hdirectory

end FaultFree

/-! ## The whole walk -/

/-- The items report each link that is met and leads nowhere, and each that leads back to a
directory in which the walk is. -/
def Reports (w : Walk) (v : Visit) (items : List Item) : Prop :=
  ∀ ns n v' target, w.visit? v ns = some v' → v'.inner.find? n = some (.link target) →
    (∀ fault, w.fs.locate (v'.pathOf n) = .error fault →
      .fault (.io (v'.pathOf n) fault) ∈ items) ∧
    ∀ loc inner, w.fs.locate (v'.pathOf n) = .ok loc → w.fs.node? loc = some (.directory inner) →
      (∃ level ∈ v'.levels, level.loc = loc) →
        ∃ level ∈ v'.levels, level.loc = loc ∧ .fault (.loop (v'.pathOf n) level.path) ∈ items

lemma reports_itemsOf (hfollow : w.config.followLinks = true) (h : v.Sound w) :
    w.Reports v (w.itemsOf v) := by
  intro ns n v' target hvisit hfind
  constructor
  · intro fault hlocate
    exact (mem_itemsOf_iff h).2
      ⟨ns, n, v', hvisit, meets?_of_not_located hfollow hfind hlocate⟩
  · rintro loc inner hlocate hnode ⟨level, hlevel, hloc⟩
    obtain ⟨level', hlevel', hloc', hmeets⟩ :=
      meets?_of_loop hfollow hfind hlocate hnode hlevel hloc
    exact ⟨level', hlevel', hloc', (mem_itemsOf_iff h).2 ⟨ns, n, v', hvisit, hmeets⟩⟩

/-- What a walk that follows links yields below the root. -/
structure Followed (w : Walk) (ns : List Name) : Prop where
  ne_nil : ns ≠ []
  /-- Neither it nor anything above it is left out. -/
  kept : w.config.ignore.Keeps ns
  /-- It stands for something that is no directory. -/
  entry : ∃ node, w.fs.Resolves (w.root.join (Path.ofNames ns)) node ∧ node.isDirectory = false

/-- **A walk that follows links ends, and is exact or reports a fault.**  It makes finitely many
visits, through no more nested links than there are directories, and what it yields are the items of
the entries there.  A link that leads nowhere or back is a fault; if nothing is, the files are the
kept names that stand for something other than a directory, each of them once, and in a sorted walk
in strictly increasing order. -/
theorem followed_exact {w : Walk} (hroot : checkRoot w.fs w.root = .ok ())
    (hfollow : w.config.followLinks = true) :
    ∃ loc inner items, w.fs.locate w.root = .ok loc ∧ w.fs.node? loc = some (.directory inner) ∧
      walk w.fs w.config w.root = .ok items ∧
      (∀ k, w.fs.top.directoryCount < k → w.run k [⟨loc, w.root⟩] inner = items) ∧
      {ns | (w.visit? (w.rootVisit loc inner) ns).isSome}.Finite ∧
      (∀ item, item ∈ items ↔
        ∃ ns n v, w.visit? (w.rootVisit loc inner) ns = some v ∧ w.meets? v n = some item) ∧
      w.Reports (w.rootVisit loc inner) items ∧
      ((∀ f, .fault f ∉ items) →
        (∀ p, .file p ∈ items ↔ ∃ ns, p = Path.ofNames ns ∧ w.Followed ns) ∧
        (filesOf items).Nodup ∧
        (w.config.sortEntries = true →
          (filesOf items).Pairwise fun p q => p.key < q.key)) := by
  obtain ⟨loc, inner, hloc, hnode⟩ := exists_directory_of_checkRoot hroot
  have hsound : (w.rootVisit loc inner).Sound w := sound_rootVisit hloc hnode
  have hwalk : walk w.fs w.config w.root = .ok (w.itemsOf (w.rootVisit loc inner)) :=
    walk_eq_ok_iff.2 ⟨loc, inner, hloc, hnode, rfl⟩
  refine ⟨loc, inner, _, hloc, hnode, hwalk, ?_, finite_visits _,
    fun item => mem_itemsOf_iff hsound, reports_itemsOf hfollow hsound, fun hfree => ⟨?_, ?_, ?_⟩⟩
  · exact fun k hk => run_eq_itemsOf ((card_remaining_le _).trans hk)
  · intro p
    rw [file_mem_iff_of_followed hfollow hsound rfl hfree]
    constructor
    · rintro ⟨ns, hne, rfl, hkeeps, hentry⟩
      rw [← Path.join_ofNames w.root hne] at hentry
      exact ⟨ns, rfl, hne, hkeeps, hentry⟩
    · rintro ⟨ns, rfl, hne, hkeeps, hentry⟩
      rw [Path.join_ofNames w.root hne] at hentry
      exact ⟨ns, hne, rfl, hkeeps, hentry⟩
  · rw [← yielded_of_walk hwalk]
    exact nodup_yielded w.fs w.config w.root
  · intro hsort
    rw [← yielded_of_walk hwalk]
    exact increasing_yielded w.fs w.root hsort

/-- Below `r` the walk meets the link `b` to nothing and the link `c` back to `r`. -/
theorem followed_exact_tangled :
    checkRoot tangled ⟨[114]⟩ = .ok () ∧
      ∃ items, walk tangled ⟨.nothing, true, true⟩ ⟨[114]⟩ = .ok items ∧
        .fault (.io ⟨[114, 47, 98]⟩ .notFound) ∈ items ∧
        .fault (.loop ⟨[114, 47, 99]⟩ ⟨[114]⟩) ∈ items := by
  refine ⟨rfl, ?_⟩
  obtain ⟨loc, inner, items, hloc, hnode, hwalk, -, -, -, hreports, -⟩ :=
    followed_exact (w := ⟨tangled, ⟨.nothing, true, true⟩, ⟨[114]⟩⟩) rfl rfl
  have hr : tangled.locate ⟨[114]⟩ = .ok [⟨[114], by decide⟩] := rfl
  obtain rfl : [⟨[114], by decide⟩] = loc := Except.ok.inj (hr.symm.trans hloc)
  cases hnode
  refine ⟨items, hwalk, ?_, ?_⟩
  · exact (hreports [] ⟨[98], by decide⟩ _ ⟨[120]⟩ rfl rfl).1 _ rfl
  · obtain ⟨level, hlevel, -, hfault⟩ := (hreports [] ⟨[99], by decide⟩ _ ⟨[46]⟩ rfl rfl).2
      [⟨[114], by decide⟩] _ rfl rfl ⟨_, List.mem_cons_self .., rfl⟩
    obtain rfl := List.mem_singleton.1 hlevel
    exact hfault

example : walk tangled ⟨.nothing, true, true⟩ ⟨[114]⟩ =
    .ok [.file ⟨[97, 47, 103]⟩, .fault (.io ⟨[114, 47, 98]⟩ .notFound),
      .fault (.loop ⟨[114, 47, 99]⟩ ⟨[114]⟩), .file ⟨[100, 47, 103]⟩, .file ⟨[102]⟩] := by cbv

end Walk
end Reconcile
