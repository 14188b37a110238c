import Reconcile.Proofs.FileSystem.Enter
import Reconcile.Proofs.FileSystem.Make

/-!
# Whether a directory is new

After a path has been made with all those above it, what is located there has been made now, unless
it was located there before.  This needs a condition: behind a directory that is made, a `..` leads
back to where other things may stand.  If every path above that ends in `..` was there before, none
of the paths leads to something that only now can be reached (`FileSystem.enters_or_new`), and an
entry that did not exist is new (`FileSystem.fresh_of_makeDirectories`).
-/

namespace Reconcile
namespace FileSystem

variable {fs fs₁ fs' : FileSystem} {p : Path} {n : Name} {paths above : List Path}
  {loc mid : Location}

lemma Deepens.shape_of_none (h : fs.Deepens fs' paths) (hnone : fs'.shape loc = none) :
    fs.shape loc = none := by
  rcases h.shape loc with hsame | ⟨hold, -⟩
  · rw [← hsame, hnone]
  · exact hold

/-! ## One entry -/

/-- A directory that is made was not there. -/
lemma fresh_of_makeDirectory (h : makeDirectory (p.child n) fs = .ok ((), fs'))
    (hmid : fs'.Enters p mid) : fs.shape (mid ++ [n]) = none := by
  have hextends := (deepens_of_makeDirectory h).1.extended
  rw [makeDirectory] at h
  cases hplace : fs.place .make (p.child n) with
  | error fault => simp [hplace] at h
  | ok place =>
    obtain ⟨mid', hmid', hentry⟩ := entryOf_of_place rfl hplace
    rw [hmid.unique (hextends.enters hmid')]
    cases hentry with
    | free fits => exact (shape_of_place_free hplace).2
    | taken hnode => simp [hplace] at h

/-- A directory that exists is not made. -/
lemma makeDirectory_of_node (hp : fs.Enters p mid) {node : Node}
    (hnode : fs.node? (mid ++ [n]) = some node) (hnul : 0 ∉ (p.child n).bytes)
    (hshort : (p.child n).tooLong = false) :
    makeDirectory (p.child n) fs = .error .alreadyExists := by
  rw [makeDirectory, place_child_of_node hp hnode rfl hnul hshort]

/-- An entry that did not exist is new, if this is so of what is above it. -/
lemma fresh_of_ensureDirectories (hnew : fs.existsAt (p.child n) = false)
    (habove : ∀ fs₁ mid, (ensureDirectories above).on fs = (.ok (), fs₁) →
      fs₁.Enters p.trimmed mid → fs.Enters p.trimmed mid ∨ fs.shape mid = none)
    (h : (ensureDirectories (p.child n :: above)).on fs = (.ok (), fs'))
    (hmid : fs'.Enters p mid) : fs.shape (mid ++ [n]) = none := by
  have hne := Path.child_ne_nil p n
  have hparent : (p.child n).parent? ≠ none := by
    rw [Path.parent?_entry]
    exact nofun
  by_cases hmake : makeDirectory (p.child n) fs = .error .notFound
  · rw [on_ensureDirectories_notFound hne hparent hmake] at h
    obtain ⟨_, fs₁, hfirst, hlast⟩ := Effect.on_bind_eq_ok_iff.1 h
    rcases ensureDirectory_cases hlast with hmade | ⟨rfl, hdirectory⟩
    · exact (deepens_of_ensureDirectories hfirst).shape_of_none (fresh_of_makeDirectory hmade hmid)
    -- What has been made above leads to an entry that was there already, or to a new directory.
    cases hshape : fs.shape (mid ++ [n]) with
    | none => rfl
    | some node =>
      exfalso
      obtain ⟨node', hnode, -⟩ := Option.map_eq_some_iff.1 hshape
      obtain ⟨inner, hinner, -⟩ := Listing.lookup_concat.1 hnode
      have hdir : fs.shape mid = some (.directory .nil) :=
        Listing.shape_eq_directory_iff.2 ⟨inner, hinner⟩
      rcases habove fs' mid hfirst hmid.trimmed with hold | hnone
      · obtain ⟨loc, hlocate, -⟩ := isDirectoryAt_iff_shape.1 (hdirectory rfl)
        obtain ⟨hnul, -, hshort, -⟩ := locate_eq_ok_iff.1 hlocate
        rw [makeDirectory_of_node (hold.of_trimmed hdir) hnode hnul hshort] at hmake
        cases hmake
      · rw [hnone] at hdir
        cases hdir
  · rw [on_ensureDirectories hne hparent hmake] at h
    rcases ensureDirectory_cases h with hmade | ⟨-, hdirectory⟩
    · exact fresh_of_makeDirectory hmade hmid
    · rw [existsAt_of_isDirectoryAt (hdirectory rfl)] at hnew
      cases hnew

/-! ## The paths above -/

/-- The root and `.` lead where they did, or to a new directory. -/
lemma enters_or_new_of_here (h : fs.Deepens fs' paths) (hhere : ∀ step ∈ p.openSteps, step = .here)
    (hp : fs'.Enters p loc) : fs.Enters p loc ∨ fs.shape loc = none := by
  obtain ⟨k, hk, hleads⟩ := hp
  obtain ⟨rfl, rfl⟩ := hleads.eq_of_here hhere
  rw [h.current] at hleads ⊢
  cases hsteps : p.openSteps with
  | nil => exact Or.inl ⟨0, hk, by rw [hsteps]; exact .stop _⟩
  | cons step steps =>
    rw [hsteps] at hleads
    obtain ⟨inner, hinner⟩ := hleads.exists_directory
    have hdir := Listing.shape_eq_directory_iff.2 ⟨inner, hinner⟩
    rcases h.shape (startOf p fs.current) with hsame | ⟨hnone, -⟩
    · rw [← shape, hsame] at hdir
      obtain ⟨inner', hinner'⟩ := Listing.shape_eq_directory_iff.1 hdir
      exact Or.inl ⟨0, hk, .of_here hinner' hhere⟩
    · exact Or.inr hnone

lemma openSteps_of_top (h : p.bytes = [] ∨ p.bytes = [slash] ∨ p.bytes = [dot]) :
    ∀ step ∈ p.openSteps, step = .here := by
  rw [Path.openSteps]
  rcases h with h | h | h <;> rw [h] <;> decide

/-- What exists leads where it did. -/
lemma Enters.of_existsAt (hp : fs.existsAt p = true) (hextends : fs.Extends fs')
    (h : fs'.Enters p loc) : fs.Enters p loc := by
  obtain ⟨loc', hlocate⟩ := existsAt_iff.1 hp
  have hold := enters_of_locate hlocate
  rwa [h.unique (hextends.enters hold)]

/-- **What is above leads where it did, or to a new directory**, if it does not go back from
directories that were missing. -/
theorem enters_or_new {count : Nat} (htrim : p.trimmed = p) (hlen : p.components.length ≤ count)
    (hup : ∀ q ∈ Path.ancestors.go count p, q.components.getLast? = some .up →
      fs.existsAt q = true)
    (h : (ensureDirectories (Path.ancestors.go count p)).on fs = (.ok (), fs'))
    (hp : fs'.Enters p loc) : fs.Enters p loc ∨ fs.shape loc = none := by
  induction count generalizing p fs' loc with
  | zero =>
    have hbytes : p.bytes = [] := by
      by_contra hne
      have hlength := List.length_pos_iff.2 (Path.components_ne_nil hne)
      omega
    exact enters_or_new_of_here (deepens_of_ensureDirectories h)
      (openSteps_of_top (Or.inl hbytes)) hp
  | succ count ih =>
    have hdeepens := deepens_of_ensureDirectories h
    have hold : fs.existsAt p = true → fs.Enters p loc ∨ fs.shape loc = none :=
      fun hexists => Or.inl (.of_existsAt hexists hdeepens.extended hp)
    rcases Path.trimmed_kinds htrim with hbytes | hbytes | hbytes | hlast | ⟨q, n, rfl⟩
    · exact enters_or_new_of_here hdeepens (openSteps_of_top (Or.inl hbytes)) hp
    · exact enters_or_new_of_here hdeepens (openSteps_of_top (Or.inr (Or.inl hbytes))) hp
    · exact enters_or_new_of_here hdeepens (openSteps_of_top (Or.inr (Or.inr hbytes))) hp
    · obtain ⟨above, habove⟩ := Path.ancestors_go_cons (count + 1) p
      exact hold (hup p (by rw [habove]; exact List.mem_cons_self ..) hlast)
    · cases hexists : fs.existsAt (q.child n) with
      | true => exact hold hexists
      | false =>
        have hparent := Path.parent?_entry q n
        rw [Path.ancestors.go, hparent] at hup h
        obtain ⟨c, hcomponents⟩ := Path.components_of_parent? hparent
        rw [hcomponents, List.length_append, List.length_singleton] at hlen
        obtain ⟨mid, node, hmid, hnode, hloc⟩ := exists_enters_of_child hp
        have hnone := fresh_of_ensureDirectories hexists
          (fun fs₁ mid hfirst hmid => ih (Path.trimmed_trimmed q) (Nat.le_of_succ_le_succ hlen)
            (fun q' hq' => hup q' (List.mem_cons_of_mem _ hq')) hfirst hmid) h hmid
        right
        rw [hloc (hdeepens.extended.isLink_eq_false hnone hnode)]
        exact hnone

/-- **An entry that did not exist is new**, if the paths above it do not go back from directories
that were missing. -/
theorem fresh_of_makeDirectories (hnew : fs.existsAt (p.child n) = false)
    (hup : ∀ q ∈ (p.child n).ancestors, q.components.getLast? = some .up → fs.existsAt q = true)
    (h : (makeDirectories (p.child n)).on fs = (.ok (), fs')) (hmid : fs'.Enters p mid) :
    fs.shape (mid ++ [n]) = none := by
  have hparent := Path.parent?_entry p n
  obtain ⟨c, hcomponents⟩ := Path.components_of_parent? hparent
  have hancestors : (p.child n).ancestors =
      p.child n :: Path.ancestors.go p.trimmed.components.length p.trimmed := by
    rw [Path.ancestors, hcomponents, List.length_append, List.length_singleton, Path.ancestors.go,
      hparent]
  rw [hancestors] at hup
  rw [makeDirectories, hancestors] at h
  exact fresh_of_ensureDirectories hnew
    (fun fs₁ mid hfirst hmid => enters_or_new (Path.trimmed_trimmed p) (Nat.le_refl _)
      (fun q hq => hup q (List.mem_cons_of_mem _ hq)) hfirst hmid) h hmid

end FileSystem
end Reconcile
