import Reconcile.Proofs.FileSystem.Enter
import Reconcile.Proofs.FileSystem.Pave
import Reconcile.Retrieve

/-!
# One copy

A copy to a path below a directory makes the directories on the way, and then the file
(`FileSystem.Copied`); nothing else changes.  In a tree without links it succeeds if the source is
a file, no directory stands at the destination and no file on the way to it, and both paths are
short enough (`Copy.exists_run`); else it fails (`Copy.exists_run_error`).
-/

namespace Reconcile

namespace FileSystem

variable {fs fs' fs₁ : FileSystem} {p : Path} {loc : Location} {ms ns : List Name} {n : Name}

/-- The same tree, but with a file at the end of the names from `loc` and directories on the way. -/
structure Copied (fs fs' : FileSystem) (loc : Location) (ns : List Name) (content : Bytes) :
    Prop where
  current : fs'.current = fs.current
  file : fs'.shape (loc ++ ns) = some (.file content)
  directories : ∀ ms, ms <+: ns → ms ≠ ns → fs'.shape (loc ++ ms) = some (.directory .nil)
  rest : ∀ loc', (∀ ms, ms <+: ns → loc' ≠ loc ++ ms) → fs'.shape loc' = fs.shape loc'

/-- A directory stands at the end of the names from `loc`, or a file on the way. -/
def Clash (fs : FileSystem) (loc : Location) (ns : List Name) : Prop :=
  (∃ inner, fs.node? (loc ++ ns) = some (.directory inner)) ∨
    ∃ ms content, ms ≠ [] ∧ ms <+: ns ∧ ms ≠ ns ∧
      fs.node? (loc ++ ms) = some (.file content)

/-- Without a clash there is room for a file. -/
lemma shape_of_not_clash (hloc : fs.shape loc = some (.directory .nil))
    (h : ¬ fs.Clash loc ns) :
    fs.shape (loc ++ ns) ≠ some (.directory .nil) ∧
      ∀ ms, ms <+: ns → ms ≠ ns → ∀ content, fs.shape (loc ++ ms) ≠ some (.file content) := by
  constructor
  · intro hdir
    exact h (Or.inl (Listing.shape_eq_directory_iff.1 hdir))
  · intro ms hms hne content hfile
    exact h (Or.inr ⟨ms, content, ne_nil_of_shape_ne hloc hfile (by simp), hms, hne,
      Listing.shape_eq_file_iff.1 hfile⟩)

/-- A file behind the end of a way. -/
lemma Paved.copied (h : Paved fs fs₁ loc ms) (hcurrent : fs'.current = fs₁.current)
    {content : Bytes} (hshape : ∀ loc', fs'.shape loc' =
      if loc' = loc ++ (ms ++ [n]) then some (.file content) else fs₁.shape loc') :
    Copied fs fs' loc (ms ++ [n]) content where
  current := hcurrent.trans h.current
  file := by rw [hshape, if_pos rfl]
  directories ks hks hne := by
    rw [hshape, if_neg fun heq => hne (List.append_cancel_left heq)]
    rcases List.prefix_concat_iff.1 hks with heq | hks
    · exact absurd heq hne
    · exact h.directories ks hks
  rest loc' hloc' := by
    rw [hshape, if_neg (hloc' _ (List.prefix_refl _))]
    exact h.rest loc' fun ks hks => hloc' ks (hks.trans (List.prefix_append _ _))

/-- Nothing exists where nothing stands. -/
lemma existsAt_descend_of_none (hp : fs.locate p = .ok loc)
    (hloc : fs.shape loc = some (.directory .nil)) (hfree : fs.LinkFree)
    (hfits : ∀ m ∈ ns, m.Fits) (hshort : (p.descend ns).tooLong = false)
    (hnone : fs.shape (loc ++ ns) = none) : fs.existsAt (p.descend ns) = false := by
  have hlocate : ∃ fault, fs.locate (p.descend ns) = .error fault := by
    rcases hfree.exists_gap hloc hnone with
      ⟨front, m, rest, rfl, hdir, hgap⟩ | ⟨front, rest, content, rfl, hrest, hfile⟩
    · by_cases hrest : rest = []
      · subst hrest
        exact ⟨_, by rw [locate, place_descend_free hp hloc hfits hshort hdir hgap]⟩
      · exact ⟨_, by rw [locate, place_descend_notFound hp hloc hfits hshort hdir hgap hrest]⟩
    · exact ⟨_, by rw [locate, place_descend_notDirectory hp hloc hfits hshort hfile hrest]⟩
  obtain ⟨fault, hfault⟩ := hlocate
  rw [existsAt, stat, hfault]
  rfl

end FileSystem

namespace Copy

open FileSystem

variable {fs fs₁ : FileSystem} {p q : Path} {loc : Location} {ms ns : List Name} {n : Name}

/-- The copy from below `q` to below `p` along the same names. -/
def along (p q : Path) (ns : List Name) : Copy := ⟨q.descend ns, p.descend ns⟩

/-! ## The directory of the copy -/

section Parent

variable (hp : fs.locate p = .ok loc) (hloc : fs.shape loc = some (.directory .nil))

include hp

lemma parent?_dest (q : Path) (ms : List Name) (n : Name) :
    (along p q (ms ++ [n])).dest.parent? = some (p.descend ms).trimmed := by
  show (p.descend (ms ++ [n])).parent? = _
  rw [Path.descend_concat, Path.parent?_child (Path.descend_ne_nil (locate_ne_nil hp) ms)]

include hloc

/-- Where something stands at the directory of the copy, nothing is made. -/
lemma on_makeParent_of_shape {node : Node} (hshort : (p.descend ms).tooLong = false)
    (hnode : fs.shape (loc ++ ms) = some node) (hlink : node.isLink = false) :
    (along p q (ms ++ [n])).makeParent.on fs = (.ok (), fs) := by
  have hlocate := locate_trimmed (locate_descend hp hloc hshort hnode hlink)
  show makeParent _ fs = _
  rw [makeParent, parent?_dest hp]
  simp [existsAt_of_locate hlocate]

/-- Where nothing stands there, the directories on the way are made. -/
lemma on_makeParent_of_none (hfree : fs.LinkFree) (hfits : ∀ m ∈ ms, m.Fits)
    (hshort : (p.descend ms).tooLong = false) (hnone : fs.shape (loc ++ ms) = none) :
    (along p q (ms ++ [n])).makeParent.on fs =
      (Effect.blame (.write (p.descend ms)) (makeDirectories (p.descend ms))).on fs := by
  have hms : ms ≠ [] := ne_nil_of_shape_ne hloc hnone (by simp)
  have hexists := existsAt_descend_of_none hp hloc hfree hfits hshort hnone
  show makeParent _ fs = _
  rw [makeParent, parent?_dest hp, Path.trimmed_descend (locate_ne_nil hp) hms]
  simp [hexists]

/-- With no file in the way, the directory of the copy is there in the end. -/
theorem exists_makeParent (hfree : fs.LinkFree) (hfits : ∀ m ∈ ms, m.Fits)
    (hshort : (p.descend ms).tooLong = false)
    (hclear : ∀ ks, ks <+: ms → ∀ content, fs.shape (loc ++ ks) ≠ some (.file content)) :
    ∃ fs₁, (along p q (ms ++ [n])).makeParent.on fs = (.ok (), fs₁) ∧ Paved fs fs₁ loc ms := by
  rcases hfree.shape_cases (loc ++ ms) with hnone | hdir | ⟨content, hfile⟩
  · have hms : ms ≠ [] := ne_nil_of_shape_ne hloc hnone (by simp)
    have hcount : ms.length ≤ (p.descend ms).components.length + 1 := by
      rw [Path.components_descend (locate_ne_nil hp), List.length_append, List.length_map]
      omega
    obtain ⟨fs₁, hmake, hpaved⟩ :=
      exists_ensureDirectories hp hloc hfree hms hfits hshort hclear hcount
    refine ⟨fs₁, ?_, hpaved⟩
    rw [on_makeParent_of_none hp hloc hfree hfits hshort hnone]
    exact Effect.on_blame_ok hmake
  · exact ⟨fs, on_makeParent_of_shape hp hloc hshort hdir rfl, .of_directory hdir⟩
  · exact absurd hfile (hclear ms (List.prefix_refl ms) content)

/-- With a file in the way, nothing can be made behind it. -/
lemma exists_makeParent_error (hfree : fs.LinkFree) (hfits : ∀ m ∈ ms, m.Fits)
    (hshort : (p.descend ms).tooLong = false) {ks : List Name} {content : Bytes}
    (hks : ks <+: ms) (hfile : fs.shape (loc ++ ks) = some (.file content))
    (hnone : fs.shape (loc ++ ms) = none) :
    ∃ e fs₁, (along p q (ms ++ [n])).makeParent.on fs = (.error e, fs₁) := by
  obtain ⟨rest, rfl⟩ := hks
  have hrest : rest ≠ [] := by
    rintro rfl
    rw [List.append_nil, hfile] at hnone
    cases hnone
  have hmake : makeDirectory (p.descend (ks ++ rest)) fs = .error .notDirectory := by
    rw [makeDirectory, place_descend_notDirectory hp hloc hfits hshort hfile hrest]
  have hne := locate_ne_nil hp
  have hms : ks ++ rest ≠ [] := by simp [hrest]
  have hparent := Path.parent?_descend_ne_none hne hms
  obtain ⟨above, habove⟩ := Path.ancestors_go_cons
    (p.descend (ks ++ rest)).components.length (p.descend (ks ++ rest))
  have hensure : (makeDirectories (p.descend (ks ++ rest))).on fs = (.error .notDirectory, fs) := by
    rw [makeDirectories, Path.ancestors, habove,
      on_ensureDirectories (Path.descend_ne_nil hne _) hparent (by simp [hmake])]
    show ensureDirectory _ fs = _
    have hexists := existsAt_descend_of_none hp hloc hfree hfits hshort hnone
    have hdir : ¬ fs.isDirectoryAt (p.descend (ks ++ rest)) := fun hdir => by
      rw [existsAt_of_isDirectoryAt hdir] at hexists
      cases hexists
    rw [ensureDirectory, hmake]
    simp [hdir]
  rw [on_makeParent_of_none hp hloc hfree hfits hshort hnone]
  exact ⟨_, fs, Effect.on_blame_error hensure⟩

end Parent

/-! ## The copy -/

/-- A copy fails if its source cannot be located or its destination cannot be made. -/
lemma exists_run_error_of {c : Copy} (h : ∀ fs₁, c.makeParent.on fs = (.ok (), fs₁) →
      (∀ source, fs₁.locate c.source ≠ .ok source) ∨
        ∀ target, create c.dest fs₁ ≠ .ok target) :
    ∃ e fs', c.run.on fs = (.error e, fs') := by
  rcases hparent : c.makeParent.on fs with ⟨e | _, fs₁⟩
  · exact ⟨e, fs₁, Effect.on_bind_error hparent⟩
  · rw [run, Effect.on_bind_ok hparent]
    cases hsource : fs₁.locate c.source with
    | error fault =>
      refine ⟨.read c.source fault, fs₁, Effect.on_bind_error ?_⟩
      rw [Effect.on_ask, hsource]
      rfl
    | ok source =>
      have hask : (Effect.ask fun fs => (fs.locate c.source).mapError (DiffError.read c.source)).on
          fs₁ = (.ok source, fs₁) := by
        rw [Effect.on_ask, hsource]
        rfl
      rw [Effect.on_bind_ok hask]
      cases hcreate : create c.dest fs₁ with
      | error fault =>
        exact ⟨_, fs₁, Effect.on_bind_error (Effect.on_blame_error
          (Effect.on_attempt_error hcreate))⟩
      | ok target =>
        rcases h fs₁ hparent with hnone | hnone
        · exact absurd hsource (hnone source)
        · exact absurd hcreate (hnone target)

/-- A copy of a file that can be read to a place that can be made succeeds. -/
lemma on_run {c : Copy} {fs₂ : FileSystem} {source target : Location} {content : Bytes}
    (hparent : c.makeParent.on fs = (.ok (), fs₁)) (hsource : fs₁.locate c.source = .ok source)
    (hcreate : create c.dest fs₁ = .ok (target, fs₂))
    (hfile : fs₂.shape source = some (.file content)) :
    c.run.on fs = (.ok (), fs₂.storeAt target content) := by
  have hask : (Effect.ask fun fs => (fs.locate c.source).mapError (DiffError.read c.source)).on
      fs₁ = (.ok source, fs₁) := by
    rw [Effect.on_ask, hsource]
    rfl
  have hread : (Effect.ask fun fs => ((fs.streamAt source).drain).mapError
      (DiffError.write c.dest)).on fs₂ = (.ok content, fs₂) := by
    rw [Effect.on_ask, streamAt_of_file (Listing.shape_eq_file_iff.1 hfile), Stream.drain_ofBytes]
    rfl
  rw [run, Effect.on_bind_ok hparent, Effect.on_bind_ok hask,
    Effect.on_bind_ok (Effect.on_blame_ok (Effect.on_attempt_ok hcreate)),
    Effect.on_bind_ok hread]
  exact Effect.on_modify _ _

/-! ## When a copy succeeds -/

section Along

variable {loc' : Location} (hp : fs.locate p = .ok loc)
  (hloc : fs.shape loc = some (.directory .nil)) (hfree : fs.LinkFree)

include hp hloc hfree

/-- The file of a copy is made, or emptied if it is there. -/
lemma exists_create (hfits : ∀ m ∈ ns ++ [n], m.Fits)
    (hshort : (p.descend (ns ++ [n])).tooLong = false)
    (hdir : fs.shape (loc ++ ns) = some (.directory .nil))
    (hroom : fs.shape (loc ++ (ns ++ [n])) ≠ some (.directory .nil)) :
    ∃ fs', create (p.descend (ns ++ [n])) fs = .ok (loc ++ (ns ++ [n]), fs') ∧
      fs'.current = fs.current ∧ ∀ loc', fs'.shape loc' =
        if loc' = loc ++ (ns ++ [n]) then some (.file []) else fs.shape loc' := by
  rcases hfree.shape_cases (loc ++ (ns ++ [n])) with hnone | hdir' | ⟨content, hfile⟩
  · have hfit := hfits n (List.mem_append_right ns (List.mem_singleton_self n))
    refine ⟨fs.withFile (loc ++ ns) n hfit [], ?_, rfl, fun loc' => ?_⟩
    · rw [create, place_descend_free hp hloc hfits hshort hdir hnone]
      simp
    · rw [← List.append_assoc]
      rw [← List.append_assoc] at hnone
      exact shape_withFile hfit [] hdir (by rw [hnone]; simp) loc'
  · exact absurd hdir' hroom
  · have hnode := Listing.shape_eq_file_iff.1 hfile
    refine ⟨fs.storeAt (loc ++ (ns ++ [n])) [], ?_, ?_, shape_storeAt hfile []⟩
    · rw [create, place_descend_taken hp hloc hshort hfile rfl]
      simp [node?, hnode]
    · exact storeAt_current fs _ []

/-- **A copy along names succeeds** if its source is a file, nothing clashes with its destination,
and both paths are short enough. -/
theorem exists_run {content : Bytes} (hq : fs.locate q = .ok loc')
    (hfile : fs.shape (loc' ++ ns) = some (.file content)) (hns : ns ≠ [])
    (hapart : ¬ loc <+: loc' ++ ns) (hclear : ¬ fs.Clash loc ns)
    (hdest : (p.descend ns).tooLong = false) (hsource : (q.descend ns).tooLong = false) :
    ∃ fs', (along p q ns).run.on fs = (.ok (), fs') ∧ Copied fs fs' loc ns content := by
  obtain ⟨hroom, hway⟩ := shape_of_not_clash hloc hclear
  have hfits : ∀ m ∈ ns, m.Fits :=
    fun m hm => fits_of_shape hfile m (List.mem_append_right loc' hm)
  obtain ⟨ms, n, rfl⟩ : ∃ ms n, ns = ms ++ [n] :=
    ⟨_, _, (List.dropLast_concat_getLast hns).symm⟩
  have hway' : ∀ ks, ks <+: ms → ∀ x, fs.shape (loc ++ ks) ≠ some (.file x) :=
    fun ks hks => hway ks (hks.trans (List.prefix_append _ _)) (ne_concat_of_isPrefix hks n)
  have hoff : ∀ ks, loc' ++ (ms ++ [n]) ≠ loc ++ ks := by
    intro ks heq
    exact hapart (heq ▸ List.prefix_append loc ks)
  -- The directories are made first; the source is where it was.
  obtain ⟨fs₁, hparent, hpaved⟩ := exists_makeParent (q := q) (n := n) hp hloc hfree
    (fun m hm => hfits m (List.mem_append_left _ hm))
    (Path.tooLong_of_child (Path.descend_concat p ms n ▸ hdest)) hway'
  have hgrows := hpaved.grows hway'
  have hfree₁ := hpaved.linkFree hfree
  have hfile₁ : fs₁.shape (loc' ++ (ms ++ [n])) = some (.file content) := by
    rw [hpaved.rest, hfile]
    exact fun ks _ => hoff ks
  have hloc' : fs.shape loc' = some (.directory .nil) := by
    simpa using shape_above hfile List.nil_prefix hns.symm
  have hlocate := locate_descend (hgrows.locate hfree hq) (hgrows.directories loc' hloc') hsource
    hfile₁ rfl
  -- Then the file is made, and the source read and stored.
  have hroom₁ : fs₁.shape (loc ++ (ms ++ [n])) ≠ some (.directory .nil) := by
    rw [hpaved.shape_concat]
    exact hroom
  obtain ⟨fs₂, hcreate, hcurrent, hshape⟩ := exists_create (hgrows.locate hfree hp)
    (hgrows.directories loc hloc) hfree₁ hfits hdest (hpaved.directories ms (List.prefix_refl ms))
    hroom₁
  have hfile₂ : fs₂.shape (loc' ++ (ms ++ [n])) = some (.file content) := by
    rw [hshape, if_neg, hfile₁]
    exact hoff (ms ++ [n])
  have hdest₂ : fs₂.shape (loc ++ (ms ++ [n])) = some (.file []) := by rw [hshape, if_pos rfl]
  refine ⟨_, on_run hparent hlocate hcreate hfile₂,
    hpaved.copied ((storeAt_current _ _ _).trans hcurrent) fun loc'' => ?_⟩
  rw [shape_storeAt hdest₂, hshape]
  split <;> rfl

/-- A copy fails if something clashes with its destination. -/
lemma exists_run_error_of_clash (hfits : ∀ m ∈ ns, m.Fits) (hns : ns ≠ [])
    (hclash : fs.Clash loc ns) (hdest : (p.descend ns).tooLong = false) :
    ∃ e fs', (along p q ns).run.on fs = (.error e, fs') := by
  obtain ⟨ms, n, rfl⟩ : ∃ ms n, ns = ms ++ [n] :=
    ⟨_, _, (List.dropLast_concat_getLast hns).symm⟩
  have hfits' : ∀ m ∈ ms, m.Fits := fun m hm => hfits m (List.mem_append_left _ hm)
  have hshort : (p.descend ms).tooLong = false :=
    Path.tooLong_of_child (Path.descend_concat p ms n ▸ hdest)
  -- Where the directory of the copy exists, its file cannot be made.
  have hmade : ∀ node, fs.shape (loc ++ ms) = some node →
      (∀ target, create (p.descend (ms ++ [n])) fs ≠ .ok target) →
      ∃ e fs', (along p q (ms ++ [n])).run.on fs = (.error e, fs') := by
    intro node hnode hcreate
    have hlink : node.isLink = false := by
      obtain ⟨node', hnode', rfl⟩ := Option.map_eq_some_iff.1 hnode
      rw [Node.isLink_bare]
      exact hfree.isLink_eq_false hnode'
    refine exists_run_error_of fun fs₁ hparent => Or.inr ?_
    rw [on_makeParent_of_shape hp hloc hshort hnode hlink] at hparent
    obtain rfl := (Prod.mk.inj hparent).2
    exact hcreate
  rcases hclash with ⟨inner, hinner⟩ | ⟨ks, content, hks, hpre, hne, hfile⟩
  · have hdir := Listing.shape_eq_directory_iff.2 ⟨inner, hinner⟩
    refine hmade _ (shape_parent hdir) fun target hcreate => ?_
    rw [create, place_descend_taken hp hloc hdest hdir rfl] at hcreate
    simp [hinner] at hcreate
  · have hfile := Listing.shape_eq_file_iff.2 hfile
    have hks : ks <+: ms := by
      rcases List.prefix_concat_iff.1 hpre with heq | hks
      · exact absurd heq hne
      · exact hks
    cases hnode : fs.shape (loc ++ ms) with
    | none =>
      obtain ⟨e, fs₁, hparent⟩ :=
        exists_makeParent_error hp hloc hfree hfits' hshort hks hfile hnode
      exact ⟨e, fs₁, Effect.on_bind_error hparent⟩
    | some node =>
      refine hmade node hnode fun target hcreate => ?_
      obtain ⟨rest, rfl⟩ := hks
      rw [List.append_assoc] at hfits hdest hcreate
      rw [create, place_descend_notDirectory hp hloc hfits hdest hfile (by simp)] at hcreate
      cases hcreate

end Along

/-- A copy fails if one of its paths is too long. -/
lemma exists_run_error_of_tooLong {c : Copy}
    (h : c.source.tooLong = true ∨ c.dest.tooLong = true) :
    ∃ e fs', c.run.on fs = (.error e, fs') := by
  refine exists_run_error_of fun fs₁ _ => ?_
  rcases h with hsource | hdest
  · refine Or.inl fun source hlocate => ?_
    rw [(locate_eq_ok_iff.1 hlocate).2.2.1] at hsource
    cases hsource
  · refine Or.inr fun target hcreate => ?_
    obtain ⟨fault, hfault⟩ := exists_place_error fs₁ .create hdest
    rw [create, hfault] at hcreate
    cases hcreate

end Copy
end Reconcile
