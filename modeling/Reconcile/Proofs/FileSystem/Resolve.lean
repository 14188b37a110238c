import Reconcile.FileSystem.Basic
import Reconcile.Proofs.FileSystem.Lookup
import Reconcile.Proofs.Path.Names

/-!
# Where a path leads

`FileSystem.Leads` says where steps lead when every link is followed, with the number of links on
the way but without any limit on it.  It is a rule for each step, can be cut wherever the steps can
(`Leads.append`, `Leads.split`), and has at most one end (`Leads.unique`).  Following a path with
its limits is the same relation with at most `linkLimit` links: `FileSystem.locate_eq_ok_iff`.
-/

namespace Reconcile

/-! ## The steps of an entry -/

namespace Step

lemma ofPiece?_nil : ofPiece? [] = none := by
  simp [ofPiece?, Name.Proper]

lemma ofPiece?_name (n : Name) : ofPiece? n.bytes = some (.enter n) := by
  have hproper := n.proper
  simp [ofPiece?, hproper.2.2.1, hproper.2.2.2, hproper]

lemma eq_nil_of_ofPiece? {piece : Bytes} (hslash : slash ∉ piece) (h : ofPiece? piece = none) :
    piece = [] := by
  by_contra hne
  rw [ofPiece?] at h
  split at h
  · cases h
  split at h
  · cases h
  rename_i hdot hup
  rw [dif_pos ⟨hne, hslash, hdot, hup⟩] at h
  cases h

end Step

namespace Path

lemma openSteps_child (p : Path) (n : Name) :
    (p.child n).openSteps = p.openSteps ++ [.enter n] := by
  have hn : n.bytes.splitOn slash = [n.bytes] := List.splitOn_eq_singleton n.proper.2.1
  rw [openSteps, openSteps, child_bytes]
  cases hend : p.endsInSlash with
  | true =>
    have hlast : p.bytes.getLast? = some slash := by simpa [endsInSlash] using hend
    obtain ⟨t, ht⟩ := List.getLast?_eq_some_iff.1 hlast
    rw [stem_of_endsInSlash hend, ht, List.append_assoc, List.singleton_append,
      List.splitOn_append_cons_self, List.splitOn_append_cons_self, hn]
    simp [Step.ofPiece?_nil, Step.ofPiece?_name]
  | false =>
    by_cases hp : p.bytes = []
    · simp [stem, hp, hn, Step.ofPiece?_nil, Step.ofPiece?_name]
    · rw [stem_of_not_endsInSlash hp hend, List.append_assoc, List.singleton_append,
        List.splitOn_append_cons_self, hn]
      simp [Step.ofPiece?_name]

lemma openSteps_descend (p : Path) (ns : List Name) :
    (p.descend ns).openSteps = p.openSteps ++ ns.map .enter := by
  induction ns generalizing p with
  | nil => simp
  | cons n ns ih => simp [ih, openSteps_child]

lemma steps_descend (p : Path) {ns : List Name} (hns : ns ≠ []) :
    (p.descend ns).steps = p.openSteps ++ ns.map .enter := by
  rw [steps, endsInSlash_descend p hns, openSteps_descend]
  rfl

lemma steps_child (p : Path) (n : Name) : (p.child n).steps = p.openSteps ++ [.enter n] :=
  steps_descend p (List.cons_ne_nil n [])

lemma isAbsolute_child {p : Path} (hp : p.bytes ≠ []) (n : Name) :
    (p.child n).isAbsolute = p.isAbsolute := by
  obtain ⟨b, rest, hb⟩ := List.exists_cons_of_ne_nil hp
  rw [isAbsolute, isAbsolute, child_bytes, stem]
  split <;> simp [hb]

lemma isAbsolute_descend {p : Path} (hp : p.bytes ≠ []) (ns : List Name) :
    (p.descend ns).isAbsolute = p.isAbsolute := by
  induction ns generalizing p with
  | nil => rfl
  | cons n ns ih => rw [descend_cons, ih (child_ne_nil p n), isAbsolute_child hp]

/-- A path that is not empty has a step. -/
lemma steps_ne_nil {p : Path} (hp : p.bytes ≠ []) : p.steps ≠ [] := by
  rw [steps]
  split
  · simp
  · rename_i hend
    intro hnil
    -- Pieces without a step are empty, so no byte but a slash could be at the end of the path.
    have hblank : ∀ piece ∈ p.bytes.splitOn slash, piece = [] := by
      intro piece hmem
      have hnone := List.filterMap_eq_nil_iff.1 hnil piece hmem
      exact Step.eq_nil_of_ofPiece? (sep_notMem_of_mem_splitOn hmem) hnone
    have hlast : p.bytes.getLast hp ≠ slash := by
      intro hslash
      rw [endsInSlash, List.getLast?_eq_some_getLast hp, hslash] at hend
      simp at hend
    obtain ⟨piece, hmem, hbyte⟩ := (exists_mem_splitOn hlast).2 (List.getLast_mem hp)
    rw [hblank piece hmem] at hbyte
    exact List.not_mem_nil hbyte

lemma notMem_child {p : Path} {n : Name} (hp : 0 ∉ p.bytes) (hn : 0 ∉ n.bytes) :
    0 ∉ (p.child n).bytes := by
  have hslash : (0 : UInt8) ≠ slash := by decide
  rw [child_bytes, stem]
  split <;> simp [hp, hn, hslash]

lemma notMem_descend {p : Path} {ns : List Name} (hp : 0 ∉ p.bytes) (hns : ∀ n ∈ ns, 0 ∉ n.bytes) :
    0 ∉ (p.descend ns).bytes := by
  induction ns generalizing p with
  | nil => exact hp
  | cons n ns ih =>
    exact ih (notMem_child hp (hns n (List.mem_cons_self ..)))
      fun m hm => hns m (List.mem_cons_of_mem _ hm)

lemma tooLong_of_child {p : Path} {n : Name} (h : (p.child n).tooLong = false) :
    p.tooLong = false := by
  have hlt := length_lt_child p n
  simp only [tooLong, decide_eq_false_iff_not, Nat.not_le] at h ⊢
  omega

end Path

namespace FileSystem

/-! ## Steps and links -/

/-- From the location `loc` the steps lead to another location, through `k` links.  Each step is
taken in a directory, and a link is replaced by the steps of its target. -/
inductive Leads (top : Listing) : (k : Nat) → (loc : Location) → List Step → Location → Prop
  /-- Without a step nothing moves. -/
  | stop (loc : Location) : Leads top 0 loc [] loc
  /-- The piece `.` and a slash at the end stay in the directory. -/
  | stay {k : Nat} {loc loc' : Location} {step : Step} {rest : List Step} {inner : Listing} :
      step = .here ∨ step = .close → top.lookup loc = some (.directory inner) →
      Leads top k loc rest loc' → Leads top k loc (step :: rest) loc'
  | up {k : Nat} {loc loc' : Location} {rest : List Step} {inner : Listing} :
      top.lookup loc = some (.directory inner) →
      Leads top k loc.dropLast rest loc' → Leads top k loc (.up :: rest) loc'
  | enter {k : Nat} {loc loc' : Location} {n : Name} {rest : List Step} {inner : Listing}
      {node : Node} :
      top.lookup loc = some (.directory inner) → inner.find? n = some node →
      node.isLink = false →
      Leads top k (loc ++ [n]) rest loc' → Leads top k loc (.enter n :: rest) loc'
  | jump {k : Nat} {loc loc' : Location} {n : Name} {rest : List Step} {inner : Listing}
      {target : Path} :
      top.lookup loc = some (.directory inner) → inner.find? n = some (.link target) →
      Leads top k (startOf target loc) (target.steps ++ rest) loc' →
      Leads top (k + 1) loc (.enter n :: rest) loc'

namespace Leads

variable {top : Listing} {k k' : Nat} {loc mid loc' loc'' : Location} {xs ys steps : List Step}

/-- What leads to a place leads on from there. -/
theorem append (h : Leads top k loc xs mid) (h' : Leads top k' mid ys loc') :
    Leads top (k + k') loc (xs ++ ys) loc' := by
  induction h with
  | stop => simpa using h'
  | stay hstep hdir _ ih => exact .stay hstep hdir (ih h')
  | up hdir _ ih => exact .up hdir (ih h')
  | enter hdir hfind hlink _ ih => exact .enter hdir hfind hlink (ih h')
  | jump hdir hfind _ ih =>
    rw [Nat.add_right_comm]
    exact .jump hdir hfind (by simpa using ih h')

lemma split_nil (h : Leads top k loc ys loc') :
    ∃ mid k₁ k₂, k = k₁ + k₂ ∧ Leads top k₁ loc [] mid ∧ Leads top k₂ mid ys loc' :=
  ⟨loc, 0, k, (Nat.zero_add k).symm, .stop loc, h⟩

/-- Wherever the steps are cut, the first of them lead somewhere. -/
theorem split (h : Leads top k loc (xs ++ ys) loc') :
    ∃ mid k₁ k₂, k = k₁ + k₂ ∧ Leads top k₁ loc xs mid ∧ Leads top k₂ mid ys loc' := by
  generalize hsteps : xs ++ ys = steps at h
  -- The cut moves along the steps; behind a link it lies behind the steps of the target.
  induction h generalizing xs with
  | stop loc =>
    obtain ⟨rfl, rfl⟩ := List.append_eq_nil_iff.1 hsteps
    exact ⟨loc, 0, 0, rfl, .stop loc, .stop loc⟩
  | @stay k loc loc' step rest inner hstep hdir hrest ih =>
    cases xs with
    | nil =>
      obtain rfl : ys = step :: rest := hsteps
      exact split_nil (.stay hstep hdir hrest)
    | cons x xs =>
      obtain ⟨rfl, hrest'⟩ := List.cons.inj hsteps
      obtain ⟨mid, k₁, k₂, hk, h₁, h₂⟩ := ih hrest'
      exact ⟨mid, k₁, k₂, hk, .stay hstep hdir h₁, h₂⟩
  | @up k loc loc' rest inner hdir hrest ih =>
    cases xs with
    | nil =>
      obtain rfl : ys = .up :: rest := hsteps
      exact split_nil (.up hdir hrest)
    | cons x xs =>
      obtain ⟨rfl, hrest'⟩ := List.cons.inj hsteps
      obtain ⟨mid, k₁, k₂, hk, h₁, h₂⟩ := ih hrest'
      exact ⟨mid, k₁, k₂, hk, .up hdir h₁, h₂⟩
  | @enter k loc loc' n rest inner node hdir hfind hlink hrest ih =>
    cases xs with
    | nil =>
      obtain rfl : ys = .enter n :: rest := hsteps
      exact split_nil (.enter hdir hfind hlink hrest)
    | cons x xs =>
      obtain ⟨rfl, hrest'⟩ := List.cons.inj hsteps
      obtain ⟨mid, k₁, k₂, hk, h₁, h₂⟩ := ih hrest'
      exact ⟨mid, k₁, k₂, hk, .enter hdir hfind hlink h₁, h₂⟩
  | @jump k loc loc' n rest inner target hdir hfind hrest ih =>
    cases xs with
    | nil =>
      obtain rfl : ys = .enter n :: rest := hsteps
      exact split_nil (.jump hdir hfind hrest)
    | cons x xs =>
      obtain ⟨rfl, hrest'⟩ := List.cons.inj hsteps
      have hcut : (target.steps ++ xs) ++ ys = target.steps ++ rest := by
        rw [List.append_assoc]
        exact congrArg (target.steps ++ ·) hrest'
      obtain ⟨mid, k₁, k₂, hk, h₁, h₂⟩ := ih hcut
      exact ⟨mid, k₁ + 1, k₂, by omega, .jump hdir hfind h₁, h₂⟩

/-- Steps lead to one place, through one number of links. -/
theorem unique (h : Leads top k loc steps loc') (h' : Leads top k' loc steps loc'') :
    loc' = loc'' ∧ k = k' := by
  induction h generalizing k' loc'' with
  | stop => cases h'; exact ⟨rfl, rfl⟩
  | stay hstep _ _ ih =>
    cases h' with
    | stay _ _ h' => exact ih h'
    | up | enter | jump => simp at hstep
  | up _ _ ih =>
    cases h' with
    | stay hstep => simp at hstep
    | up _ h' => exact ih h'
  | enter hdir hfind hlink _ ih =>
    cases h' with
    | stay hstep => simp at hstep
    | enter _ _ _ h' => exact ih h'
    | jump hdir' hfind' =>
      rw [hdir] at hdir'
      cases hdir'
      rw [hfind] at hfind'
      cases hfind'
      simp [Node.isLink] at hlink
  | jump hdir hfind _ ih =>
    cases h' with
    | stay hstep => simp at hstep
    | enter hdir' hfind' hlink' =>
      rw [hdir] at hdir'
      cases hdir'
      rw [hfind] at hfind'
      cases hfind'
      simp [Node.isLink] at hlink'
    | jump hdir' hfind' h' =>
      rw [hdir] at hdir'
      cases hdir'
      rw [hfind] at hfind'
      cases hfind'
      obtain ⟨hloc, hk⟩ := ih h'
      exact ⟨hloc, by rw [hk]⟩

/-- Steps lead from a node that is no link to one that is none. -/
lemma exists_node (h : Leads top k loc steps loc')
    (hloc : ∃ node, top.lookup loc = some node ∧ node.isLink = false) :
    ∃ node, top.lookup loc' = some node ∧ node.isLink = false := by
  induction h with
  | stop => exact hloc
  | stay _ hdir _ ih => exact ih ⟨_, hdir, rfl⟩
  | up hdir _ ih =>
    obtain ⟨outer, houter⟩ := Listing.lookup_dropLast hdir
    exact ih ⟨_, houter, rfl⟩
  | enter hdir hfind hlink _ ih =>
    exact ih ⟨_, Listing.lookup_concat.2 ⟨_, hdir, hfind⟩, hlink⟩
  | @jump k loc loc' n rest inner target hdir hfind _ ih =>
    refine ih ?_
    rw [startOf]
    split
    · exact ⟨_, rfl, rfl⟩
    · exact ⟨_, hdir, rfl⟩

/-- Where steps can be taken at all there is a directory. -/
lemma exists_directory {step : Step} (h : Leads top k loc (step :: steps) loc') :
    ∃ inner, top.lookup loc = some (.directory inner) := by
  cases h with
  | stay _ hdir _ => exact ⟨_, hdir⟩
  | up hdir _ => exact ⟨_, hdir⟩
  | enter hdir _ _ _ => exact ⟨_, hdir⟩
  | jump hdir _ _ => exact ⟨_, hdir⟩

lemma exists_node_of_ne_nil (h : Leads top k loc steps loc') (hsteps : steps ≠ []) :
    ∃ node, top.lookup loc' = some node ∧ node.isLink = false := by
  obtain ⟨step, rest, rfl⟩ := List.exists_cons_of_ne_nil hsteps
  obtain ⟨inner, hdir⟩ := h.exists_directory
  exact h.exists_node ⟨_, hdir, rfl⟩

/-- What a slash stands behind is a directory. -/
lemma exists_directory_of_close (h : Leads top k loc (steps ++ [.close]) loc') :
    ∃ inner, top.lookup loc' = some (.directory inner) := by
  obtain ⟨mid, k₁, k₂, -, -, h₂⟩ := h.split
  cases h₂ with
  | stay _ hdir hstop =>
    cases hstop
    exact ⟨_, hdir⟩

/-- One name leads to the entry that it stands for, unless that is a link. -/
lemma of_find? {inner : Listing} {n : Name} {node : Node}
    (hdir : top.lookup loc = some (.directory inner)) (hfind : inner.find? n = some node)
    (hlink : node.isLink = false) : Leads top 0 loc [.enter n] (loc ++ [n]) :=
  .enter hdir hfind hlink (.stop _)

/-- A name leads to the entry that it stands for, or on through a link. -/
lemma enter_cases {n : Name} (h : Leads top k loc [.enter n] loc') :
    ∃ inner, top.lookup loc = some (.directory inner) ∧
      ((∃ node, inner.find? n = some node ∧ node.isLink = false ∧ loc' = loc ++ [n]) ∨
        ∃ target, inner.find? n = some (.link target)) := by
  cases h with
  | stay hstep => simp at hstep
  | enter hdir hfind hlink hstop =>
    cases hstop
    exact ⟨_, hdir, Or.inl ⟨_, hfind, hlink, rfl⟩⟩
  | jump hdir hfind _ => exact ⟨_, hdir, Or.inr ⟨_, hfind⟩⟩

/-- Names lead to where they stand when there is no link on the way. -/
lemma of_lookup {inner : Listing} {ns : List Name} {node : Node}
    (hdir : top.lookup loc = some (.directory inner)) (hnode : top.lookup (loc ++ ns) = some node)
    (hlink : node.isLink = false) : Leads top 0 loc (ns.map .enter) (loc ++ ns) := by
  induction ns generalizing loc inner with
  | nil =>
    rw [List.append_nil]
    exact .stop loc
  | cons n ns ih =>
    have hnode' : top.lookup (loc ++ [n] ++ ns) = some node := by
      rw [List.append_assoc]
      exact hnode
    -- The last name may stand for a file; the ones before it stand for directories.
    rw [show loc ++ n :: ns = loc ++ [n] ++ ns by simp]
    by_cases hnil : ns = []
    · subst hnil
      rw [List.append_nil] at hnode' ⊢
      obtain ⟨inner', hdir', hfind⟩ := Listing.lookup_concat.1 hnode'
      exact of_find? hdir' hfind hlink
    · obtain ⟨inner', hinner', -⟩ := (Listing.lookup_append_eq_some hnil).1 hnode'
      obtain ⟨outer, houter, hfind⟩ := Listing.lookup_concat.1 hinner'
      exact .enter houter hfind rfl (ih hinner' hnode')

/-- Names lead to where they stand unless there is a link on the way or at their end. -/
lemma names_cases {ns : List Name} (h : Leads top k loc (ns.map .enter) loc')
    (hlink : ∀ ms target, ms ≠ [] → ms <+: ns → ms ≠ ns →
      top.lookup (loc ++ ms) ≠ some (.link target)) :
    loc' = loc ++ ns ∨ ∃ target, top.lookup (loc ++ ns) = some (.link target) := by
  induction ns using List.reverseRecOn generalizing k loc' with
  | nil =>
    cases h
    exact Or.inl (List.append_nil loc).symm
  | append_singleton ns n ih =>
    rw [List.map_append, List.map_singleton] at h
    obtain ⟨mid, k₁, k₂, -, h₁, h₂⟩ := h.split
    have hmid : mid = loc ++ ns := by
      by_cases hnil : ns = []
      · subst hnil
        cases h₁
        exact (List.append_nil loc).symm
      · have hpre : ∀ {ms}, ms <+: ns → ms <+: ns ++ [n] :=
          fun hms => hms.trans (List.prefix_append ns [n])
        refine (ih h₁ fun ms target hne hms _ =>
          hlink ms target hne (hpre hms) (ne_concat_of_isPrefix hms n)).resolve_right ?_
        rintro ⟨target, htarget⟩
        have hself := List.prefix_refl ns
        exact hlink ns target hnil (hpre hself) (ne_concat_of_isPrefix hself n) htarget
    subst hmid
    obtain ⟨inner, hinner, ⟨node, -, -, rfl⟩ | ⟨target, hfind⟩⟩ := h₂.enter_cases
    · exact Or.inl (List.append_assoc loc ns [n])
    · refine Or.inr ⟨target, ?_⟩
      rw [← List.append_assoc]
      exact Listing.lookup_concat.2 ⟨inner, hinner, hfind⟩

end Leads

/-! ## Following with limits -/

section Limits

variable {top : Listing} {purpose : Purpose} {k links : Nat} {loc loc' : Location}
  {steps : List Step}

/-- What steps lead to is found by following them, if enough links may be followed.  A directory is
not opened for writing. -/
lemma follow_of_leads (hpurpose : purpose.followsLast = true)
    (hend : purpose = .create → ∀ inner, top.lookup loc' ≠ some (.directory inner))
    (hnamed : top.Named) (h : Leads top k loc steps loc') (hk : k ≤ links) :
    follow top purpose links loc steps = .ok (.taken loc') := by
  -- By induction on what leads there; a jump uses up one of the links that are left.
  induction h generalizing links with
  | stop loc => cases links <;> rfl
  | @stay k loc loc' step rest inner hstep hdir _ ih =>
    have hrest := ih hend hk
    rcases hstep with rfl | rfl <;> cases links <;>
      simpa only [follow, followSteps, hdir] using hrest
  | up hdir _ ih =>
    have hrest := ih hend hk
    cases links <;> simpa only [follow, followSteps, hdir] using hrest
  | @enter k loc loc' n rest inner node hdir hfind hlink hleads ih =>
    have hrest := ih hend hk
    have hclose : ¬ (purpose = .create ∧ rest = [.close]) := by
      rintro ⟨hcreate, rfl⟩
      cases hleads with
      | stay _ hdir' hstop =>
        cases hstop
        exact hend hcreate _ hdir'
    obtain ⟨hlen, hnul⟩ := Listing.fits_of_find? (Listing.named_of_lookup hnamed hdir) hfind
    cases node with
    | link target => simp [Node.isLink] at hlink
    | file content =>
      cases links <;>
        simpa [follow, followSteps, hdir, hclose, hfind, Nat.not_lt.2 hlen, hnul] using hrest
    | directory inner' =>
      cases links <;>
        simpa [follow, followSteps, hdir, hclose, hfind, Nat.not_lt.2 hlen, hnul] using hrest
  | @jump k loc loc' n rest inner target hdir hfind hleads ih =>
    have hclose : ¬ (purpose = .create ∧ rest = [.close]) := by
      rintro ⟨hcreate, rfl⟩
      obtain ⟨inner', hinner'⟩ := hleads.exists_directory_of_close
      exact hend hcreate inner' hinner'
    obtain ⟨hlen, hnul⟩ := Listing.fits_of_find? (Listing.named_of_lookup hnamed hdir) hfind
    cases links with
    | zero => omega
    | succ links =>
      have hrest := ih hend (Nat.le_of_succ_le_succ hk)
      simpa [follow, followSteps, hdir, hclose, hfind, Nat.not_lt.2 hlen, hnul, hpurpose]
        using hrest

/-- Every way in which one step goes on to the others, or ends at a place. -/
inductive Proceeds (top : Listing) (purpose : Purpose)
    (jump : Location → List Step → Except Fault Place) (loc : Location) (rest : List Step)
    (place : Place) : Step → Prop where
  | stay {step : Step} {inner : Listing} :
      step = .here ∨ step = .close → top.lookup loc = some (.directory inner) →
      followSteps top purpose jump loc rest = .ok place →
      Proceeds top purpose jump loc rest place step
  | up {inner : Listing} :
      top.lookup loc = some (.directory inner) →
      followSteps top purpose jump loc.dropLast rest = .ok place →
      Proceeds top purpose jump loc rest place .up
  /-- The name is free. -/
  | free {n : Name} {fits : n.Fits} {inner : Listing} :
      top.lookup loc = some (.directory inner) → inner.find? n = none → rest = [] →
      place = .free loc n fits → Proceeds top purpose jump loc rest place (.enter n)
  | enter {n : Name} {inner : Listing} {node : Node} :
      top.lookup loc = some (.directory inner) → inner.find? n = some node → node.isLink = false →
      followSteps top purpose jump (loc ++ [n]) rest = .ok place →
      Proceeds top purpose jump loc rest place (.enter n)
  /-- The name is that of a link, which itself is asked for. -/
  | hold {n : Name} {inner : Listing} {target : Path} :
      top.lookup loc = some (.directory inner) → inner.find? n = some (.link target) →
      purpose.followsLast = false → rest = [] → place = .taken (loc ++ [n]) →
      Proceeds top purpose jump loc rest place (.enter n)
  | jump {n : Name} {inner : Listing} {target : Path} :
      top.lookup loc = some (.directory inner) → inner.find? n = some (.link target) →
      jump (startOf target loc) (target.steps ++ rest) = .ok place →
      Proceeds top purpose jump loc rest place (.enter n)

section Proceeds

variable {jump : Location → List Step → Except Fault Place} {rest : List Step} {place : Place}

lemma proceeds_of_enter {inner : Listing} {n : Name}
    (hdir : top.lookup loc = some (.directory inner))
    (h : followSteps top purpose jump loc (.enter n :: rest) = .ok place) :
    Proceeds top purpose jump loc rest place (.enter n) := by
  simp only [followSteps, hdir] at h
  -- A name that cannot be entered leads to no place.
  split at h
  · cases h
  split at h
  · cases h
  split at h
  · cases h
  cases hfind : inner.find? n with
  | none =>
    simp only [hfind] at h
    split at h
    · rename_i hrest
      exact .free hdir hfind hrest (Except.ok.inj h).symm
    · cases h
  | some node =>
    cases node with
    | file content =>
      simp only [hfind] at h
      exact .enter hdir hfind rfl h
    | directory below =>
      simp only [hfind] at h
      exact .enter hdir hfind rfl h
    | link target =>
      simp only [hfind] at h
      split at h
      · rename_i hlast
        exact .hold hdir hfind (by simpa using hlast.2) hlast.1 (Except.ok.inj h).symm
      · exact .jump hdir hfind h

/-- There are no other ways in which steps lead to a place. -/
lemma proceeds_of_followSteps {step : Step}
    (h : followSteps top purpose jump loc (step :: rest) = .ok place) :
    Proceeds top purpose jump loc rest place step := by
  cases hdir : top.lookup loc with
  | none => simp [followSteps, hdir] at h
  | some node =>
    cases node with
    | file content => simp [followSteps, hdir] at h
    | link target => simp [followSteps, hdir] at h
    | directory inner =>
      cases step with
      | here =>
        simp only [followSteps, hdir] at h
        exact .stay (Or.inl rfl) hdir h
      | close =>
        simp only [followSteps, hdir] at h
        exact .stay (Or.inr rfl) hdir h
      | up =>
        simp only [followSteps, hdir] at h
        exact .up hdir h
      | enter n => exact proceeds_of_enter hdir h

end Proceeds

/-- Steps that are taken as far as `jump` goes lead where they end. -/
lemma leads_of_followSteps {jump : Location → List Step → Except Fault Place}
    (hjump : ∀ {loc steps loc'}, jump loc steps = .ok (.taken loc') →
      ∃ k, k + 1 ≤ links ∧ Leads top k loc steps loc')
    (h : followSteps top .reach jump loc steps = .ok (.taken loc')) :
    ∃ k ≤ links, Leads top k loc steps loc' := by
  induction steps generalizing loc with
  | nil =>
    rw [followSteps, Except.ok.injEq, Place.taken.injEq] at h
    exact ⟨0, Nat.zero_le _, h ▸ .stop loc⟩
  | cons step rest ih =>
    cases proceeds_of_followSteps h with
    | stay hstep hdir hnext =>
      obtain ⟨k, hk, hrest⟩ := ih hnext
      exact ⟨k, hk, .stay hstep hdir hrest⟩
    | up hdir hnext =>
      obtain ⟨k, hk, hrest⟩ := ih hnext
      exact ⟨k, hk, .up hdir hrest⟩
    | free _ _ _ hplace => cases hplace
    | enter hdir hfind hlink hnext =>
      obtain ⟨k, hk, hrest⟩ := ih hnext
      exact ⟨k, hk, .enter hdir hfind hlink hrest⟩
    | hold _ _ hlast _ _ => cases hlast
    | jump hdir hfind hnext =>
      obtain ⟨k, hk, hrest⟩ := hjump hnext
      exact ⟨k + 1, hk, .jump hdir hfind hrest⟩

lemma leads_of_follow (h : follow top .reach links loc steps = .ok (.taken loc')) :
    ∃ k ≤ links, Leads top k loc steps loc' := by
  induction links generalizing loc steps loc' with
  | zero => exact leads_of_followSteps (by simp) h
  | succ links ih =>
    refine leads_of_followSteps (fun {loc steps loc'} hjump => ?_) h
    obtain ⟨k, hk, hleads⟩ := ih hjump
    exact ⟨k, Nat.succ_le_succ hk, hleads⟩

end Limits

variable {fs : FileSystem} {p : Path} {loc : Location}

/-- A path that has a place is followed to it. -/
lemma follow_of_place {purpose : Purpose} {place : Place} (h : fs.place purpose p = .ok place) :
    0 ∉ p.bytes ∧ p.bytes ≠ [] ∧ p.tooLong = false ∧
      follow fs.top purpose linkLimit (startOf p fs.current)
        (if purpose = .make then p.openSteps else p.steps) = .ok place := by
  rw [FileSystem.place] at h
  split at h
  · cases h
  split at h
  · cases h
  split at h
  · cases h
  rename_i hnul hne hlong
  exact ⟨hnul, hne, by simpa using hlong, h⟩

/-- A path is located where it leads, if neither its text nor the links on the way exceed their
limits. -/
theorem locate_eq_ok_iff :
    fs.locate p = .ok loc ↔
      0 ∉ p.bytes ∧ p.bytes ≠ [] ∧ p.tooLong = false ∧
        ∃ k ≤ linkLimit, Leads fs.top k (startOf p fs.current) p.steps loc := by
  have hlocate : fs.locate p = .ok loc ↔ fs.place .reach p = .ok (.taken loc) := by
    rw [locate]
    split <;> simp_all
  rw [hlocate]
  constructor
  · intro h
    obtain ⟨hnul, hne, hshort, hfollow⟩ := follow_of_place h
    exact ⟨hnul, hne, hshort, leads_of_follow hfollow⟩
  · rintro ⟨hnul, hne, hshort, k, hk, hleads⟩
    rw [place, if_neg hnul, if_neg hne, hshort]
    exact follow_of_leads rfl (by simp) fs.named hleads hk

lemma locate_ne_nil (h : fs.locate p = .ok loc) : p.bytes ≠ [] := (locate_eq_ok_iff.1 h).2.1

/-- What a path is located at exists and is no link. -/
lemma exists_node_of_locate (h : fs.locate p = .ok loc) :
    ∃ node, fs.node? loc = some node ∧ node.isLink = false := by
  obtain ⟨-, hne, -, k, -, hleads⟩ := locate_eq_ok_iff.1 h
  exact hleads.exists_node_of_ne_nil (Path.steps_ne_nil hne)

/-! ## The entries of a directory -/

/-- The slash at the end of a path leads nowhere else. -/
lemma Leads.openSteps {top : Listing} {k : Nat} {start : Location}
    (h : Leads top k start p.steps loc) : Leads top k start p.openSteps loc := by
  rw [Path.steps] at h
  split at h
  · obtain ⟨mid, k₁, k₂, hk, h₁, h₂⟩ := h.split
    cases h₂ with
    | stay _ _ hstop =>
      cases hstop
      rw [hk, Nat.add_zero]
      exact h₁
  · exact h

lemma Leads.steps_of_openSteps {top inner : Listing} {k : Nat} {start : Location}
    (hdir : top.lookup loc = some (.directory inner)) (h : Leads top k start p.openSteps loc) :
    Leads top k start p.steps loc := by
  rw [Path.steps]
  split
  · have hclose : Leads top 0 loc [.close] loc := .stay (Or.inr rfl) hdir (.stop loc)
    exact h.append hclose
  · exact h

/-- What stands at names below a directory is located there, if it is no link and its path is short
enough. -/
theorem locate_below {inner : Listing} {ns : List Name} {node : Node} (hp : fs.locate p = .ok loc)
    (hdir : fs.node? loc = some (.directory inner)) (hnode : fs.node? (loc ++ ns) = some node)
    (hlink : node.isLink = false) (hshort : (p.descend ns).tooLong = false) :
    fs.locate (p.descend ns) = .ok (loc ++ ns) := by
  by_cases hns : ns = []
  · subst hns
    rw [List.append_nil]
    exact hp
  · obtain ⟨hnul, hne, -, k, hk, hleads⟩ := locate_eq_ok_iff.1 hp
    have hnul' : 0 ∉ (p.descend ns).bytes := Path.notMem_descend hnul fun n hn =>
      (Listing.fits_of_lookup fs.named hnode n (List.mem_append_right loc hn)).2
    refine locate_eq_ok_iff.2 ⟨hnul', Path.descend_ne_nil hne ns, hshort, k, hk, ?_⟩
    rw [Path.steps_descend p hns, startOf, Path.isAbsolute_descend hne]
    exact hleads.openSteps.append (.of_lookup hdir hnode hlink)

/-! ## Without limits -/

/-- What a path stands for when every link is followed, however long the path is and however many
links there are on the way. -/
def Resolves (fs : FileSystem) (p : Path) (node : Node) : Prop :=
  ∃ k loc, Leads fs.top k (startOf p fs.current) p.steps loc ∧ fs.node? loc = some node

lemma stat_of_locate {node : Node} (hp : fs.locate p = .ok loc)
    (hnode : fs.node? loc = some node) : fs.stat p = .ok node := by
  rw [stat, hp]
  simp [hnode]

lemma exists_of_stat {node : Node} (h : fs.stat p = .ok node) :
    ∃ loc, fs.locate p = .ok loc ∧ fs.node? loc = some node := by
  rw [stat] at h
  cases hp : fs.locate p with
  | error fault => simp [hp] at h
  | ok loc =>
    cases hnode : fs.node? loc with
    | none => simp [hp, hnode] at h
    | some node' =>
      rw [hp] at h
      simp only [hnode, Option.elim_some, Except.ok.injEq] at h
      exact ⟨loc, rfl, by rw [hnode, h]⟩

/-- What a path reaches within the limits it stands for. -/
theorem resolves_of_stat {node : Node} (h : fs.stat p = .ok node) : fs.Resolves p node := by
  obtain ⟨loc, hp, hnode⟩ := exists_of_stat h
  obtain ⟨-, -, -, k, -, hleads⟩ := locate_eq_ok_iff.1 hp
  exact ⟨k, loc, hleads, hnode⟩

/-- Where names below a directory lead, they lead from there. -/
lemma leads_of_descend {ns : List Name} {k : Nat} {loc' : Location} (hp : fs.locate p = .ok loc)
    (hns : ns ≠ [])
    (h : Leads fs.top k (startOf (p.descend ns) fs.current) (p.descend ns).steps loc') :
    ∃ k, Leads fs.top k loc (ns.map .enter) loc' := by
  obtain ⟨-, hne, -, j, -, hleads⟩ := locate_eq_ok_iff.1 hp
  rw [startOf, Path.isAbsolute_descend hne, Path.steps_descend p hns] at h
  obtain ⟨mid, k₁, k₂, -, h₁, h₂⟩ := h.split
  obtain ⟨rfl, -⟩ := h₁.unique hleads.openSteps
  exact ⟨k₂, h₂⟩

/-- Names below a directory stand for what they lead to from there. -/
theorem resolves_descend_iff {ns : List Name} {node : Node} (hp : fs.locate p = .ok loc)
    (hns : ns ≠ []) :
    fs.Resolves (p.descend ns) node ↔
      ∃ k loc', Leads fs.top k loc (ns.map .enter) loc' ∧ fs.node? loc' = some node := by
  constructor
  · rintro ⟨k, loc', h, hnode⟩
    obtain ⟨k', hleads⟩ := leads_of_descend hp hns h
    exact ⟨k', loc', hleads, hnode⟩
  · rintro ⟨k, loc', h, hnode⟩
    obtain ⟨-, hne, -, j, -, hleads⟩ := locate_eq_ok_iff.1 hp
    refine ⟨j + k, loc', ?_, hnode⟩
    rw [startOf, Path.isAbsolute_descend hne, Path.steps_descend p hns]
    exact hleads.openSteps.append h

end FileSystem
end Reconcile
