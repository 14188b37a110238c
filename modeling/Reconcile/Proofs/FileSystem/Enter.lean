import Reconcile.Proofs.FileSystem.Grow
import Reconcile.Proofs.Path.Trimmed

/-!
# The directory of an entry

The last name of a path is looked up in the directory in front of it.  `FileSystem.Enters` says
where that is; the empty path, which itself is located nowhere, stands for the directory where
relative paths start.  Pieces at the end of the path that stand for nothing make no difference
(`FileSystem.Enters.trimmed`).  Where links in the last position are not followed, the place of an
entry is a name in its directory, taken or free (`FileSystem.entryOf_of_place`).
-/

namespace Reconcile
namespace FileSystem

variable {fs fs' : FileSystem} {p : Path} {n : Name} {loc loc' mid : Location}

/-- The entries of the path are looked up at the location. -/
def Enters (fs : FileSystem) (p : Path) (loc : Location) : Prop :=
  ∃ k ≤ linkLimit, Leads fs.top k (startOf p fs.current) p.openSteps loc

lemma Enters.unique (h : fs.Enters p loc) (h' : fs.Enters p loc') : loc = loc' := by
  obtain ⟨k, -, hleads⟩ := h
  obtain ⟨k', -, hleads'⟩ := h'
  exact (hleads.unique hleads').1

lemma enters_of_locate (h : fs.locate p = .ok loc) : fs.Enters p loc := by
  obtain ⟨-, -, -, k, hk, hleads⟩ := locate_eq_ok_iff.1 h
  exact ⟨k, hk, hleads.openSteps⟩

lemma Extends.enters (h : fs.Extends fs') (hp : fs.Enters p loc) : fs'.Enters p loc := by
  obtain ⟨k, hk, hleads⟩ := hp
  refine ⟨k, hk, ?_⟩
  rw [h.current]
  exact h.leads hleads

/-- A path is located where its entries are looked up, if there is a directory. -/
lemma Enters.locate (h : fs.Enters p loc) (hdir : fs.shape loc = some (.directory .nil))
    (hnul : 0 ∉ p.bytes) (hne : p.bytes ≠ []) (hshort : p.tooLong = false) :
    fs.locate p = .ok loc := by
  obtain ⟨k, hk, hleads⟩ := h
  obtain ⟨inner, hinner⟩ := Listing.shape_eq_directory_iff.1 hdir
  exact locate_eq_ok_iff.2 ⟨hnul, hne, hshort, k, hk, hleads.steps_of_openSteps hinner⟩

/-! ## A path without blank pieces at its end -/

lemma Leads.eq_of_here {top : Listing} {k : Nat} {steps : List Step}
    (h : Leads top k loc steps loc') (hsteps : ∀ step ∈ steps, step = .here) :
    loc' = loc ∧ k = 0 := by
  induction steps generalizing k with
  | nil =>
    cases h
    exact ⟨rfl, rfl⟩
  | cons step steps ih =>
    cases hsteps step (List.mem_cons_self ..)
    cases h with
    | stay _ _ hrest => exact ih hrest fun step hmem => hsteps step (List.mem_cons_of_mem _ hmem)

lemma Leads.of_here {top inner : Listing} {steps : List Step}
    (hdir : top.lookup loc = some (.directory inner)) (hsteps : ∀ step ∈ steps, step = .here) :
    Leads top 0 loc steps loc := by
  induction steps with
  | nil => exact .stop loc
  | cons step steps ih =>
    obtain rfl := hsteps step (List.mem_cons_self ..)
    exact .stay (Or.inl rfl) hdir (ih fun step hmem => hsteps step (List.mem_cons_of_mem _ hmem))

lemma here_of_blanks {blanks : List Bytes} (h : ∀ piece ∈ blanks, Path.Blank piece) :
    ∀ step ∈ blanks.filterMap Step.ofPiece?, step = .here := by
  intro step hmem
  obtain ⟨piece, hpiece, hstep⟩ := List.mem_filterMap.1 hmem
  rcases (h piece hpiece).eq with rfl | rfl
  · simp [Step.ofPiece?_nil] at hstep
  · simpa [Step.ofPiece?, eq_comm] using hstep

/-- The pieces that are cut off the end of a path make no steps but `.`. -/
lemma openSteps_trimmed (p : Path) (current : Location) :
    startOf p.trimmed current = startOf p current ∧
      ∃ steps, p.openSteps = p.trimmed.openSteps ++ steps ∧ ∀ step ∈ steps, step = .here := by
  by_cases hp : p.bytes = []
  · obtain rfl : p = ⟨[]⟩ := Path.eq_of_bytes hp
    exact ⟨rfl, [], rfl, by simp⟩
  obtain ⟨blanks, hblanks, ⟨hbytes, -, htrimmed⟩ | ⟨hbytes, htrimmed⟩⟩ := Path.trimmed_cases hp
  · constructor
    · obtain ⟨b, rest, hb⟩ := List.exists_cons_of_ne_nil htrimmed
      rw [startOf, startOf, Path.isAbsolute, Path.isAbsolute, hbytes, hb]
      rfl
    · refine ⟨blanks.filterMap Step.ofPiece?, ?_, here_of_blanks hblanks⟩
      rw [Path.openSteps, hbytes, splitOn_append_flatMap fun piece hmem => (hblanks piece hmem).2,
        List.filterMap_append, Path.openSteps]
  · -- Only the root is left, and all other pieces stay in it.
    have hroot : p.trimmed = ⟨[slash]⟩ := Path.eq_of_bytes htrimmed
    have habsolute : p.isAbsolute = true := by
      rw [Path.isAbsolute, hbytes]
      rfl
    rw [hroot]
    refine ⟨by rw [startOf, startOf, habsolute]; rfl, p.openSteps, ?_, ?_⟩
    · simp [Path.openSteps, Step.ofPiece?_nil]
    · cases blanks with
      | nil =>
        rw [Path.openSteps, hbytes]
        simp [Step.ofPiece?_nil]
      | cons piece blanks =>
        rw [Path.openSteps, hbytes, intercalate_cons, splitOn_cons_self,
          splitOn_append_flatMap fun piece' hmem =>
            (hblanks piece' (List.mem_cons_of_mem _ hmem)).2,
          List.splitOn_eq_singleton (hblanks piece (List.mem_cons_self ..)).2,
          List.filterMap_cons_none Step.ofPiece?_nil]
        exact here_of_blanks hblanks

lemma Enters.trimmed (h : fs.Enters p loc) : fs.Enters p.trimmed loc := by
  obtain ⟨k, hk, hleads⟩ := h
  obtain ⟨hstart, steps, hsteps, hhere⟩ := openSteps_trimmed p fs.current
  rw [hsteps] at hleads
  obtain ⟨mid, k₁, k₂, hk', h₁, h₂⟩ := hleads.split
  obtain ⟨rfl, rfl⟩ := h₂.eq_of_here hhere
  refine ⟨k₁, by omega, ?_⟩
  rw [hstart]
  exact h₁

/-- In a directory the pieces that are cut off can be put back. -/
lemma Enters.of_trimmed (h : fs.Enters p.trimmed loc)
    (hdir : fs.shape loc = some (.directory .nil)) : fs.Enters p loc := by
  obtain ⟨k, hk, hleads⟩ := h
  obtain ⟨inner, hinner⟩ := Listing.shape_eq_directory_iff.1 hdir
  obtain ⟨hstart, steps, hsteps, hhere⟩ := openSteps_trimmed p fs.current
  rw [hstart] at hleads
  refine ⟨k, hk, ?_⟩
  rw [hsteps]
  exact hleads.append (.of_here hinner hhere)

/-- The pieces at the end of a path that stand for nothing lead nowhere else. -/
theorem locate_trimmed (hp : fs.locate p = .ok loc) : fs.locate p.trimmed = .ok loc := by
  obtain ⟨hnul, hne, hshort, -⟩ := locate_eq_ok_iff.1 hp
  obtain ⟨k, hk, hleads⟩ := (enters_of_locate hp).trimmed
  obtain ⟨blanks, -, ⟨hbytes, hend, htrimmed⟩ | ⟨-, htrimmed⟩⟩ := Path.trimmed_cases hne
  · refine locate_eq_ok_iff.2 ⟨?_, htrimmed, ?_, k, hk, ?_⟩
    · rw [hbytes] at hnul
      exact fun hmem => hnul (List.mem_append_left _ hmem)
    · have hlen : p.trimmed.bytes.length ≤ p.bytes.length := by
        rw [hbytes, List.length_append]
        exact Nat.le_add_right _ _
      simp only [Path.tooLong, decide_eq_false_iff_not, Nat.not_le] at hshort ⊢
      omega
    · rw [Path.steps, hend]
      exact hleads
  · have hopen : (⟨[slash]⟩ : Path).openSteps = [] := by
      simp [Path.openSteps, Step.ofPiece?_nil]
    rw [Path.eq_of_bytes (q := ⟨[slash]⟩) htrimmed] at hleads ⊢
    rw [hopen] at hleads
    cases hleads
    exact locate_eq_ok_iff.2 ⟨by decide, by simp, by decide, 0, Nat.zero_le _,
      .stay (Or.inr rfl) rfl (.stop [])⟩

/-! ## Entries -/

lemma startOf_child (p : Path) (n : Name) (current : Location) :
    startOf (p.child n) current = startOf p current := by
  by_cases hp : p.bytes = []
  · obtain rfl : p = ⟨[]⟩ := Path.eq_of_bytes hp
    have hname : Path.child ⟨[]⟩ n = ⟨n.bytes⟩ := Path.eq_of_bytes (by rw [Path.child_bytes]; rfl)
    rw [hname, startOf, startOf, Path.isAbsolute, decide_eq_false (Path.head?_name n)]
    rfl
  · rw [startOf, startOf, Path.isAbsolute_child hp]

/-- The entries of an entry are looked up behind what stands for its name. -/
lemma exists_enters_of_child (h : fs.Enters (p.child n) loc) :
    ∃ mid node, fs.Enters p mid ∧ fs.node? (mid ++ [n]) = some node ∧
      (node.isLink = false → loc = mid ++ [n]) := by
  obtain ⟨k, hk, hleads⟩ := h
  rw [startOf_child, Path.openSteps_child] at hleads
  obtain ⟨mid, k₁, k₂, hk', hfront, hname⟩ := hleads.split
  obtain ⟨inner, hinner, ⟨node, hfind, -, hloc⟩ | ⟨target, hfind⟩⟩ := hname.enter_cases
  · exact ⟨mid, node, ⟨k₁, by omega, hfront⟩, Listing.lookup_concat.2 ⟨inner, hinner, hfind⟩,
      fun _ => hloc⟩
  · exact ⟨mid, .link target, ⟨k₁, by omega, hfront⟩,
      Listing.lookup_concat.2 ⟨inner, hinner, hfind⟩, nofun⟩

/-- What is located in a directory shows that the directory is there. -/
lemma exists_locate_of_child (hp : p.bytes ≠ []) (h : fs.locate (p.child n) = .ok loc) :
    ∃ loc', fs.locate p = .ok loc' := by
  obtain ⟨hnul, -, hshort, -⟩ := locate_eq_ok_iff.1 h
  obtain ⟨mid, node, hmid, hnode, -⟩ := exists_enters_of_child (enters_of_locate h)
  obtain ⟨inner, hinner, -⟩ := Listing.lookup_concat.1 hnode
  have hnul' : 0 ∉ p.bytes := by
    rw [Path.child_bytes, Path.stem] at hnul
    split at hnul <;> simp_all
  exact ⟨mid, hmid.locate (Listing.shape_eq_directory_iff.2 ⟨inner, hinner⟩) hnul' hp
    (Path.tooLong_of_child hshort)⟩

section Place

variable {purpose : Purpose} {place : Place}

/-- Where a link is not followed, a name stands for the entry itself. -/
lemma place_child_of_node (hp : fs.Enters p mid) {node : Node}
    (hnode : fs.node? (mid ++ [n]) = some node) (hlast : purpose.followsLast = false)
    (hnul : 0 ∉ (p.child n).bytes) (hshort : (p.child n).tooLong = false) :
    fs.place purpose (p.child n) = .ok (.taken (mid ++ [n])) := by
  obtain ⟨k, hk, hleads⟩ := hp
  obtain ⟨inner, hinner, hfind⟩ := Listing.lookup_concat.1 hnode
  have hfits := Listing.fits_of_find? (Listing.named_of_lookup fs.named hinner) hfind
  rw [place, if_neg hnul, if_neg (Path.child_ne_nil p n), hshort]
  simp only [Bool.false_eq_true, if_false, Path.steps_child, Path.openSteps_child, ite_self,
    startOf_child]
  rw [show [Step.enter n] = [n].map .enter from rfl,
    follow_append fs.named hleads hk (cut_names (List.cons_ne_nil n []))]
  generalize linkLimit - k = links
  cases node <;> cases links <;>
    simp [follow, followSteps, hinner, hfind, Nat.not_lt.2 hfits.1, hfits.2, hlast]

/-- The place is the name `n` in the directory at `mid`. -/
inductive EntryOf (top : Listing) (mid : Location) (n : Name) : Place → Prop where
  | free (fits : n.Fits) : EntryOf top mid n (.free mid n fits)
  | taken {node : Node} : top.lookup (mid ++ [n]) = some node →
      EntryOf top mid n (.taken (mid ++ [n]))

variable {top : Listing} {links : Nat} {steps : List Step}
  {jump : Location → List Step → Except Fault Place}

/-- In the last position a name stands for the entry itself. -/
lemma entryOf_of_last (hlast : purpose.followsLast = false)
    (h : followSteps top purpose jump loc [.enter n] = .ok place) : EntryOf top loc n place := by
  cases proceeds_of_followSteps h with
  | stay hstep => simp at hstep
  | free _ _ _ hplace =>
    rw [hplace]
    exact .free _
  | enter hdir hfind _ hnext =>
    rw [followSteps, Except.ok.injEq] at hnext
    rw [← hnext]
    exact .taken (Listing.lookup_concat.2 ⟨_, hdir, hfind⟩)
  | hold hdir hfind _ _ hplace =>
    rw [hplace]
    exact .taken (Listing.lookup_concat.2 ⟨_, hdir, hfind⟩)
  | jump hdir hfind _ =>
    simp only [followSteps, hdir, hfind, hlast] at h
    split at h
    · cases h
    split at h
    · cases h
    split at h
    · cases h
    rw [if_pos ⟨trivial, Bool.false_ne_true⟩, Except.ok.injEq] at h
    rw [← h]
    exact .taken (Listing.lookup_concat.2 ⟨_, hdir, hfind⟩)

lemma entryOf_of_followSteps (hlast : purpose.followsLast = false)
    (hjump : ∀ {loc steps}, jump loc (steps ++ [.enter n]) = .ok place →
      ∃ k mid, k + 1 ≤ links ∧ Leads top k loc steps mid ∧ EntryOf top mid n place)
    (h : followSteps top purpose jump loc (steps ++ [.enter n]) = .ok place) :
    ∃ k mid, k ≤ links ∧ Leads top k loc steps mid ∧ EntryOf top mid n place := by
  induction steps generalizing loc with
  | nil => exact ⟨0, loc, Nat.zero_le _, .stop loc, entryOf_of_last hlast h⟩
  | cons step steps ih =>
    cases proceeds_of_followSteps h with
    | stay hstep hdir hnext =>
      obtain ⟨k, mid, hk, hrest, hplace⟩ := ih hnext
      exact ⟨k, mid, hk, .stay hstep hdir hrest, hplace⟩
    | up hdir hnext =>
      obtain ⟨k, mid, hk, hrest, hplace⟩ := ih hnext
      exact ⟨k, mid, hk, .up hdir hrest, hplace⟩
    | free _ _ hnil _ => simp at hnil
    | enter hdir hfind hlink hnext =>
      obtain ⟨k, mid, hk, hrest, hplace⟩ := ih hnext
      exact ⟨k, mid, hk, .enter hdir hfind hlink hrest, hplace⟩
    | hold _ _ _ hnil _ => simp at hnil
    | @jump m inner target hdir hfind hnext =>
      have hnext' : jump (startOf target loc) ((target.steps ++ steps) ++ [.enter n]) =
          .ok place := by
        rw [List.append_assoc]
        exact hnext
      obtain ⟨k, mid, hk, hrest, hplace⟩ := hjump hnext'
      exact ⟨k + 1, mid, hk, .jump hdir hfind hrest, hplace⟩

lemma entryOf_of_follow (hlast : purpose.followsLast = false)
    (h : follow top purpose links loc (steps ++ [.enter n]) = .ok place) :
    ∃ k mid, k ≤ links ∧ Leads top k loc steps mid ∧ EntryOf top mid n place := by
  induction links generalizing loc steps with
  | zero => exact entryOf_of_followSteps hlast (by simp) h
  | succ links ih =>
    refine entryOf_of_followSteps hlast (fun {loc steps} hjump => ?_) h
    obtain ⟨k, mid, hk, hleads, hplace⟩ := ih hjump
    exact ⟨k, mid, Nat.succ_le_succ hk, hleads, hplace⟩

/-- Where a link is not followed, the place of an entry is its name in its directory. -/
theorem entryOf_of_place (hlast : purpose.followsLast = false)
    (h : fs.place purpose (p.child n) = .ok place) :
    ∃ mid, fs.Enters p mid ∧ EntryOf fs.top mid n place := by
  obtain ⟨-, -, -, hfollow⟩ := follow_of_place h
  rw [Path.steps_child, Path.openSteps_child, ite_self, startOf_child] at hfollow
  obtain ⟨k, mid, hk, hleads, hplace⟩ := entryOf_of_follow hlast hfollow
  exact ⟨mid, ⟨k, hk, hleads⟩, hplace⟩

end Place

end FileSystem
end Reconcile
