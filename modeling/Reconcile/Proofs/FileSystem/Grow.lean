import Reconcile.Proofs.FileSystem.Place

/-!
# Trees that grow

Nothing in this library takes a file or a directory away while it copies: a tree grows
(`FileSystem.Grows`), and what is new in it is no link (`FileSystem.Extends`).  So every path that
was located still is, at the same location (`FileSystem.Extends.locate`).  A place that is found for
a path, taken or free, is where the path is located as soon as something stands there
(`FileSystem.Extends.locate_of_place`), through however many links the path goes.
-/

namespace Reconcile

/-- Where the node of a place stands, or is going to stand. -/
def Place.loc : Place → Location
  | taken loc => loc
  | free parent n _ => parent ++ [n]

namespace FileSystem

variable {fs fs₁ fs' : FileSystem} {p : Path} {loc loc' : Location} {k links : Nat}
  {steps : List Step} {n : Name} {inner : Listing}

/-- Directories and files stay where they are; files may change. -/
structure Grows (fs fs' : FileSystem) : Prop where
  current : fs'.current = fs.current
  directories : ∀ loc, fs.shape loc = some (.directory .nil) →
    fs'.shape loc = some (.directory .nil)
  files : ∀ loc content, fs.shape loc = some (.file content) →
    ∃ content', fs'.shape loc = some (.file content')

namespace Grows

lemma exists_directory (h : fs.Grows fs') (hdir : fs.top.lookup loc = some (.directory inner)) :
    ∃ inner', fs'.top.lookup loc = some (.directory inner') :=
  Listing.shape_eq_directory_iff.1
    (h.directories loc (Listing.shape_eq_directory_iff.2 ⟨inner, hdir⟩))

/-- An entry may be another one now, but it is still no link. -/
lemma exists_find? (h : fs.Grows fs') (hdir : fs.top.lookup loc = some (.directory inner))
    {node : Node} (hfind : inner.find? n = some node) (hlink : node.isLink = false) :
    ∃ inner' node', fs'.top.lookup loc = some (.directory inner') ∧
      inner'.find? n = some node' ∧ node'.isLink = false := by
  have hnode : fs.node? (loc ++ [n]) = some node := Listing.lookup_concat.2 ⟨_, hdir, hfind⟩
  obtain ⟨node', hnode', hlink'⟩ : ∃ node', fs'.node? (loc ++ [n]) = some node' ∧
      node'.isLink = false := by
    cases node with
    | link target => simp [Node.isLink] at hlink
    | file content =>
      obtain ⟨content', hfile⟩ := h.files _ _ (Listing.shape_eq_file_iff.2 hnode)
      exact ⟨_, Listing.shape_eq_file_iff.1 hfile, rfl⟩
    | directory below =>
      obtain ⟨below', hbelow'⟩ := h.exists_directory hnode
      exact ⟨_, hbelow', rfl⟩
  obtain ⟨inner', hinner', hfind'⟩ := Listing.lookup_concat.1 hnode'
  exact ⟨inner', node', hinner', hfind', hlink'⟩

/-- Steps lead where they did, as long as the links on the way are there. -/
theorem leads (h : fs.Grows fs')
    (hlinks : ∀ loc target, fs.shape loc = some (.link target) →
      fs'.shape loc = some (.link target))
    (hleads : Leads fs.top k loc steps loc') : Leads fs'.top k loc steps loc' := by
  induction hleads with
  | stop loc => exact .stop loc
  | stay hstep hdir _ ih =>
    obtain ⟨inner, hinner⟩ := h.exists_directory hdir
    exact .stay hstep hinner ih
  | up hdir _ ih =>
    obtain ⟨inner, hinner⟩ := h.exists_directory hdir
    exact .up hinner ih
  | enter hdir hfind hlink _ ih =>
    obtain ⟨inner', node', hinner', hfind', hlink'⟩ := h.exists_find? hdir hfind hlink
    exact .enter hinner' hfind' hlink' ih
  | jump hdir hfind _ ih =>
    have hlink := hlinks _ _
      (Listing.shape_eq_link_iff.2 (Listing.lookup_concat.2 ⟨_, hdir, hfind⟩))
    obtain ⟨inner', hinner', hfind'⟩ :=
      Listing.lookup_concat.1 (Listing.shape_eq_link_iff.1 hlink)
    exact .jump hinner' hfind' ih

/-- In a tree without links that grows, paths lead where they did. -/
theorem locate (h : fs.Grows fs') (hfree : fs.LinkFree) (hp : fs.locate p = .ok loc) :
    fs'.locate p = .ok loc := by
  obtain ⟨hnul, hne, hshort, k, hk, hleads⟩ := locate_eq_ok_iff.1 hp
  refine locate_eq_ok_iff.2 ⟨hnul, hne, hshort, k, hk, ?_⟩
  rw [h.current]
  exact h.leads (fun loc target hlink => absurd hlink (hfree.shape_ne_link loc target)) hleads

end Grows

/-- A tree that grows, in which the links stay what they are and nothing new is a link. -/
structure Extends (fs fs' : FileSystem) : Prop extends Grows fs fs' where
  links : ∀ loc target, fs'.shape loc = some (.link target) ↔ fs.shape loc = some (.link target)

namespace Extends

lemma refl (fs : FileSystem) : fs.Extends fs where
  current := rfl
  directories _ h := h
  files _ content h := ⟨content, h⟩
  links _ _ := Iff.rfl

lemma trans (h : fs.Extends fs₁) (h' : fs₁.Extends fs') : fs.Extends fs' where
  current := h'.current.trans h.current
  directories loc hdir := h'.directories loc (h.directories loc hdir)
  files loc content hfile := by
    obtain ⟨content₁, hfile₁⟩ := h.files loc content hfile
    exact h'.files loc content₁ hfile₁
  links loc target := (h'.links loc target).trans (h.links loc target)

lemma linkFree (h : fs.Extends fs') (hfree : fs.LinkFree) : fs'.LinkFree :=
  linkFree_of_shape fun loc target hlink =>
    hfree.shape_ne_link loc target ((h.links loc target).1 hlink)

/-- What stood somewhere before still stands there, except that a file may have changed. -/
lemma exists_shape (h : fs.Extends fs') {node : Node} (hnode : fs.shape loc = some node) :
    ∃ node', fs'.shape loc = some node' := by
  obtain ⟨node₀, hnode₀, -⟩ := Option.map_eq_some_iff.1 hnode
  cases node₀ with
  | file content =>
    obtain ⟨content', hfile⟩ := h.files loc content (Listing.shape_eq_file_iff.2 hnode₀)
    exact ⟨_, hfile⟩
  | directory inner =>
    exact ⟨_, h.directories loc (Listing.shape_eq_directory_iff.2 ⟨inner, hnode₀⟩)⟩
  | link target => exact ⟨_, (h.links loc target).2 (Listing.shape_eq_link_iff.2 hnode₀)⟩

/-- Nothing new is a link. -/
lemma isLink_eq_false (h : fs.Extends fs') (hnone : fs.shape loc = none) {node : Node}
    (hnode : fs'.node? loc = some node) : node.isLink = false := by
  cases node with
  | file content => rfl
  | directory inner => rfl
  | link target =>
    have hlink := (h.links loc target).1 (Listing.shape_eq_link_iff.2 hnode)
    rw [hnone] at hlink
    cases hlink

/-- A link is still there. -/
lemma exists_link (h : fs.Extends fs') {target : Path}
    (hdir : fs.top.lookup loc = some (.directory inner))
    (hfind : inner.find? n = some (.link target)) :
    ∃ inner', fs'.top.lookup loc = some (.directory inner') ∧
      inner'.find? n = some (.link target) := by
  have hlink := (h.links _ _).2
    (Listing.shape_eq_link_iff.2 (Listing.lookup_concat.2 ⟨_, hdir, hfind⟩))
  exact Listing.lookup_concat.1 (Listing.shape_eq_link_iff.1 hlink)

lemma leads (h : fs.Extends fs') (hleads : Leads fs.top k loc steps loc') :
    Leads fs'.top k loc steps loc' :=
  h.toGrows.leads (fun loc target => (h.links loc target).2) hleads

/-- Whatever the links are, a path that was located is located where it was. -/
theorem locate (h : fs.Extends fs') (hp : fs.locate p = .ok loc) : fs'.locate p = .ok loc := by
  obtain ⟨hnul, hne, hshort, k, hk, hleads⟩ := locate_eq_ok_iff.1 hp
  refine locate_eq_ok_iff.2 ⟨hnul, hne, hshort, k, hk, ?_⟩
  rw [h.current]
  exact h.leads hleads

lemma existsAt (h : fs.Extends fs') (hp : fs.existsAt p = true) : fs'.existsAt p = true := by
  obtain ⟨loc, hlocate⟩ := existsAt_iff.1 hp
  exact existsAt_of_locate (h.locate hlocate)

lemma isDirectoryAt (h : fs.Extends fs') (hp : fs.isDirectoryAt p = true) :
    fs'.isDirectoryAt p = true := by
  obtain ⟨loc, hlocate, hdir⟩ := isDirectoryAt_iff_shape.1 hp
  exact isDirectoryAt_of_shape (h.locate hlocate) (h.directories loc hdir)

/-- A path that could be read still can be. -/
lemma exists_read (h : fs.Extends fs') {content : Bytes} (hp : fs.read p = .ok content) :
    ∃ content', fs'.read p = .ok content' := by
  obtain ⟨loc, hlocate, hfile⟩ := read_eq_ok_iff_shape.1 hp
  obtain ⟨content', hfile'⟩ := h.files loc content hfile
  exact ⟨content', read_eq_ok_iff_shape.2 ⟨loc, h.locate hlocate, hfile'⟩⟩

/-! ## From a place to its location -/

section Place

variable {purpose : Purpose} {place : Place}

lemma leads_of_followSteps (h : fs.Extends fs')
    (hnode : ∃ node, fs'.node? place.loc = some node ∧ node.isLink = false)
    {jump : Location → List Step → Except Fault Place}
    (hjump : ∀ {loc steps}, jump loc steps = .ok place →
      ∃ k, k + 1 ≤ links ∧ Leads fs'.top k loc steps place.loc)
    (hfollow : followSteps fs.top purpose jump loc steps = .ok place) :
    ∃ k ≤ links, Leads fs'.top k loc steps place.loc := by
  induction steps generalizing loc with
  | nil =>
    rw [followSteps, Except.ok.injEq] at hfollow
    subst hfollow
    exact ⟨0, Nat.zero_le _, .stop loc⟩
  | cons step rest ih =>
    cases proceeds_of_followSteps hfollow with
    | stay hstep hdir hnext =>
      obtain ⟨inner', hdir'⟩ := h.exists_directory hdir
      obtain ⟨k, hk, hrest⟩ := ih hnext
      exact ⟨k, hk, .stay hstep hdir' hrest⟩
    | up hdir hnext =>
      obtain ⟨inner', hdir'⟩ := h.exists_directory hdir
      obtain ⟨k, hk, hrest⟩ := ih hnext
      exact ⟨k, hk, .up hdir' hrest⟩
    | free _ _ hrest hplace =>
      -- The name was free, and stands for something now.
      subst hrest hplace
      obtain ⟨node, hnode, hlink⟩ := hnode
      obtain ⟨inner', hdir', hfind'⟩ := Listing.lookup_concat.1 hnode
      exact ⟨0, Nat.zero_le _, .of_find? hdir' hfind' hlink⟩
    | enter hdir hfind hlink hnext =>
      obtain ⟨inner', node', hdir', hfind', hlink'⟩ := h.exists_find? hdir hfind hlink
      obtain ⟨k, hk, hrest⟩ := ih hnext
      exact ⟨k, hk, .enter hdir' hfind' hlink' hrest⟩
    | hold hdir hfind _ _ hplace =>
      -- A link that was not followed would still be there.
      subst hplace
      obtain ⟨node, hnode, hlink⟩ := hnode
      obtain ⟨inner', hdir', hfind'⟩ := h.exists_link hdir hfind
      obtain ⟨inner₁, hdir₁, hfind₁⟩ := Listing.lookup_concat.1 hnode
      rw [hdir'] at hdir₁
      cases hdir₁
      rw [hfind'] at hfind₁
      cases hfind₁
      cases hlink
    | jump hdir hfind hnext =>
      obtain ⟨inner', hdir', hfind'⟩ := h.exists_link hdir hfind
      obtain ⟨k, hk, hrest⟩ := hjump hnext
      exact ⟨k + 1, hk, .jump hdir' hfind' hrest⟩

lemma leads_of_follow (h : fs.Extends fs')
    (hnode : ∃ node, fs'.node? place.loc = some node ∧ node.isLink = false)
    (hfollow : follow fs.top purpose links loc steps = .ok place) :
    ∃ k ≤ links, Leads fs'.top k loc steps place.loc := by
  induction links generalizing loc steps with
  | zero => exact h.leads_of_followSteps hnode (by simp) hfollow
  | succ links ih =>
    refine h.leads_of_followSteps hnode (fun {loc steps} hjump => ?_) hfollow
    obtain ⟨k, hk, hleads⟩ := ih hjump
    exact ⟨k, Nat.succ_le_succ hk, hleads⟩

/-- Where something stands now at the place of a path, the path is located there.  What is made
under a path is a directory, or else the path must not end in a slash. -/
theorem locate_of_place (h : fs.Extends fs') {node : Node}
    (hnode : fs'.node? place.loc = some node) (hlink : node.isLink = false)
    (hmake : purpose = .make → node.isDirectory = true) (hplace : fs.place purpose p = .ok place) :
    fs'.locate p = .ok place.loc := by
  obtain ⟨hnul, hne, hshort, hfollow⟩ := follow_of_place hplace
  obtain ⟨k, hk, hleads⟩ := h.leads_of_follow ⟨node, hnode, hlink⟩ hfollow
  refine locate_eq_ok_iff.2 ⟨hnul, hne, hshort, k, hk, ?_⟩
  rw [h.current]
  split at hleads
  · rename_i hpurpose
    have hdir := hmake hpurpose
    cases node with
    | directory inner => exact hleads.steps_of_openSteps hnode
    | file content => cases hdir
    | link target => cases hdir
  · exact hleads

end Place

end Extends

/-! ## Free names -/

section Free

variable {purpose : Purpose} {parent : Location} {fits : n.Fits}

lemma find?_of_followSteps_free {jump : Location → List Step → Except Fault Place}
    (hjump : ∀ {loc steps}, jump loc steps = .ok (.free parent n fits) →
      ∃ inner, fs.top.lookup parent = some (.directory inner) ∧ inner.find? n = none)
    (h : followSteps fs.top purpose jump loc steps = .ok (.free parent n fits)) :
    ∃ inner, fs.top.lookup parent = some (.directory inner) ∧ inner.find? n = none := by
  induction steps generalizing loc with
  | nil => cases h
  | cons step rest ih =>
    cases proceeds_of_followSteps h with
    | stay _ _ hnext => exact ih hnext
    | up _ hnext => exact ih hnext
    | free hdir hfind _ hplace =>
      cases hplace
      exact ⟨_, hdir, hfind⟩
    | enter _ _ _ hnext => exact ih hnext
    | hold _ _ _ _ hplace => cases hplace
    | jump _ _ hnext => exact hjump hnext

lemma find?_of_follow_free (h : follow fs.top purpose links loc steps = .ok (.free parent n fits)) :
    ∃ inner, fs.top.lookup parent = some (.directory inner) ∧ inner.find? n = none := by
  induction links generalizing loc steps with
  | zero => exact find?_of_followSteps_free (by simp) h
  | succ links ih => exact find?_of_followSteps_free (fun hjump => ih hjump) h

/-- A free name is one that nothing has, in a directory that is there. -/
theorem shape_of_place_free (h : fs.place purpose p = .ok (.free parent n fits)) :
    fs.shape parent = some (.directory .nil) ∧ fs.shape (parent ++ [n]) = none := by
  obtain ⟨-, -, -, hfollow⟩ := follow_of_place h
  obtain ⟨inner, hinner, hfind⟩ := find?_of_follow_free hfollow
  refine ⟨Listing.shape_eq_directory_iff.2 ⟨inner, hinner⟩, ?_⟩
  rw [shape, Listing.shape_concat hinner, hfind]
  rfl

end Free

end FileSystem
end Reconcile
