import Reconcile.Conflict.Basic
import Reconcile.Proofs.Path.Order
import Reconcile.Proofs.Sorted
import Reconcile.Registry.Classify

/-!
# The entries of a comparison

Each file that differs has one entry, in the order of the paths and with nothing decided
(`Conflict.Mirrors`).  That order does not depend on how the files are enumerated before they are
sorted (`Conflict.build_eq_of_sorted`).  The types are filled in afterwards, where the registry
knows them, and nothing else is changed by that (`Conflict.entries_mirror`).
-/

namespace Reconcile

/-- The entry without its type. -/
def ConflictEntry.untyped (e : ConflictEntry) : ConflictEntry := { e with typeName := none }

/-- A file has a type if it has a component. -/
lemma Registry.typeNameOf?_eq_some_iff {r : Registry} {fs : FileSystem} {p : Path}
    {name : String} :
    r.typeNameOf? fs p = some name ↔ ∃ c, r.classify fs p = .ok c ∧ c.type.name = name := by
  rw [typeNameOf?]
  cases r.classify fs p with
  | error e => simp [Except.toOption]
  | ok c => simp [Except.toOption]

namespace Conflict

/-- The entries are those of the files that differ. -/
structure Mirrors (results : DiffResults) (entries : List ConflictEntry) : Prop where
  /-- Each path has one entry, in the spelling that it has in the set. -/
  once : ∀ p, (entries.map ConflictEntry.relativePath).count p =
    if p ∈ results.different.toList then 1 else 0
  increasing : (entries.map ConflictEntry.relativePath).Pairwise Path.Precedes
  undecided : ∀ e ∈ entries, e.disposition = .unresolved
  roots : ∀ e ∈ entries, e.localRoot = results.localRoot ∧ e.remoteRoot = results.remoteRoot
  /-- The name of a file is that of its last component. -/
  named : ∀ e ∈ entries, ∀ n, e.relativePath.components.getLast? = some (.name n) →
    e.fileName = Utf8.lossy n.bytes
  /-- Only a path whose last component is a name has a file name. -/
  nameless : ∀ e ∈ entries, (∀ n, e.relativePath.components.getLast? ≠ some (.name n)) →
    e.fileName = ""

variable {results : DiffResults} {entries : List ConflictEntry}

/-! ## Without types -/

lemma relativePath_build (results : DiffResults) :
    (build results).map ConflictEntry.relativePath = results.different.toList := by
  rw [build, List.map_map]
  exact List.map_id _

/-- The entries are made from the files that differ. -/
theorem build_mirrors (results : DiffResults) : Mirrors results (build results) where
  once p := by
    rw [relativePath_build]
    exact (SortedList.nodup results.different).count
  increasing := by
    rw [relativePath_build]
    exact results.different.increasing.imp Path.key_lt_key_iff.1
  undecided e he := by
    obtain ⟨p, -, rfl⟩ := List.mem_map.1 he
    rfl
  roots e he := by
    obtain ⟨p, -, rfl⟩ := List.mem_map.1 he
    exact ⟨rfl, rfl⟩
  named e he n hn := by
    obtain ⟨p, -, rfl⟩ := List.mem_map.1 he
    have hname : p.fileName? = some n := by
      rw [Path.fileName?, show p.components.getLast? = some (.name n) from hn]
    show (p.fileName?.map fun n => Utf8.lossy n.bytes).getD "" = Utf8.lossy n.bytes
    rw [hname]
    rfl
  nameless e he hnone := by
    obtain ⟨p, -, rfl⟩ := List.mem_map.1 he
    have hname : p.fileName? = none := by
      rw [Path.fileName?]
      split
      · rename_i n hn
        exact absurd hn (hnone n)
      · rfl
    show (p.fileName?.map fun n => Utf8.lossy n.bytes).getD "" = ""
    rw [hname]
    rfl

/-- No two files of the set are spellings of one path, so there is one way only to sort them. -/
theorem build_eq_of_sorted {ps : List Path} (hperm : ps.Perm results.different.toList)
    (hsorted : ps.Pairwise fun p q => ¬ q.Precedes p) :
    build results = ps.map fun p => .new p results.localRoot results.remoteRoot := by
  have hnodup : ps.Nodup := hperm.nodup_iff.2 (SortedList.nodup results.different)
  have hstrict : ps.Pairwise fun p q => p.key < q.key := by
    refine (hsorted.and hnodup).imp_of_mem ?_
    rintro p q hp hq ⟨hnot, hne⟩
    rw [Path.key_lt_key_iff]
    rcases Path.precedes_total p q with hpq | hpq | hqp
    · exact hpq
    · have hkey := Path.key_eq_key_iff.2 hpq
      exact absurd (SortedList.eq_of_key_eq (hperm.mem_iff.1 hp) (hperm.mem_iff.1 hq) hkey) hne
    · exact absurd hqp hnot
  have heq : results.different.toList = ps :=
    SortedList.eq_of_mem_iff results.different.increasing hstrict fun p => hperm.mem_iff.symm
  rw [build, heq]

/-! ## With types -/

/-- Types change nothing else. -/
lemma untyped_buildWith (results : DiffResults) (typeOf : Path → Option String) :
    (buildWith results typeOf).map .untyped = build results := by
  rw [buildWith, build, List.map_map, List.map_map]
  rfl

/-- Entries mirror the files whatever their types are. -/
lemma Mirrors.of_untyped (h : Mirrors results (entries.map .untyped)) :
    Mirrors results entries := by
  have hpaths : (entries.map .untyped).map ConflictEntry.relativePath =
      entries.map ConflictEntry.relativePath := by
    rw [List.map_map]
    rfl
  have hmem : ∀ e ∈ entries, e.untyped ∈ entries.map .untyped :=
    fun e he => List.mem_map_of_mem he
  exact {
    once := by
      rw [← hpaths]
      exact h.once
    increasing := by
      rw [← hpaths]
      exact h.increasing
    undecided := fun e he => h.undecided e.untyped (hmem e he)
    roots := fun e he => h.roots e.untyped (hmem e he)
    named := fun e he => h.named e.untyped (hmem e he)
    nameless := fun e he => h.nameless e.untyped (hmem e he) }

/-- The type of an entry is the one that is found for its local file. -/
lemma typeName_of_mem_buildWith {typeOf : Path → Option String} {e : ConflictEntry}
    (he : e ∈ buildWith results typeOf) :
    e.typeName = typeOf (results.localRoot.join e.relativePath) := by
  obtain ⟨e', he', rfl⟩ := List.mem_map.1 he
  obtain ⟨p, -, rfl⟩ := List.mem_map.1 he'
  rfl

/-- **The entries mirror the files that differ.**  There is one for each of them, in the order of
the paths, which is the only one into which they can be sorted.  With a registry, the same entries
have the types of those files that can be classified, and the others stay without one. -/
theorem entries_mirror (results : DiffResults) (r : Registry) (fs : FileSystem) :
    Mirrors results (build results) ∧
      (∀ order ps : List Path, order.Perm results.different.toList → ps.Perm order →
        ps.Pairwise (fun p q => ¬ q.Precedes p) →
        build results = ps.map fun p => .new p results.localRoot results.remoteRoot) ∧
      Mirrors results (buildWith results (r.typeNameOf? fs)) ∧
      (buildWith results (r.typeNameOf? fs)).map .untyped = build results ∧
      ∀ e ∈ buildWith results (r.typeNameOf? fs), ∀ name, e.typeName = some name ↔
        ∃ c, r.classify fs (results.localRoot.join e.relativePath) = .ok c ∧
          c.type.name = name := by
  have huntyped := untyped_buildWith results (r.typeNameOf? fs)
  refine ⟨build_mirrors results, ?_, ?_, huntyped, ?_⟩
  · intro order ps horder hperm hsorted
    exact build_eq_of_sorted (hperm.trans horder) hsorted
  · apply Mirrors.of_untyped
    rw [huntyped]
    exact build_mirrors results
  · intro e he name
    rw [typeName_of_mem_buildWith he, Registry.typeNameOf?_eq_some_iff]

/-- The files `a/z` and `a-b` differ. -/
def adjacent : DiffResults where
  different := .ofList [⟨[97, 45, 98]⟩, ⟨[97, 47, 122]⟩]
  missingLocal := ∅
  localRoot := ⟨[108]⟩
  remoteRoot := ⟨[114]⟩
  scannedLocal := 0
  scannedRemote := 2

/-- Byte by byte they would be the other way round. -/
theorem entries_mirror_adjacent :
    build adjacent =
      [.new ⟨[97, 47, 122]⟩ ⟨[108]⟩ ⟨[114]⟩, .new ⟨[97, 45, 98]⟩ ⟨[108]⟩ ⟨[114]⟩] :=
  (entries_mirror adjacent ⟨∅, ∅, ∅⟩ ⟨.nil, by decide, by decide, []⟩).2.1
    [⟨[97, 45, 98]⟩, ⟨[97, 47, 122]⟩] [⟨[97, 47, 122]⟩, ⟨[97, 45, 98]⟩]
    (by decide) (by decide) (by decide)

end Conflict
end Reconcile
