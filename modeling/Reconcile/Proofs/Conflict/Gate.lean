import Mathlib.Data.List.Induction
import Reconcile.Proofs.FileSystem.Outcome
import Reconcile.Retrieve

/-!
# Decisions and the gate in front of copying

Decisions are made one after the other, about entries by their numbers.  One of them changes the
disposition of its entry and nothing else, or is refused and changes nothing at all
(`Conflict.getElem?_record`).  So after any number of them an entry has the disposition that was
given to it last, and one that is decided stays so (`Conflict.getElem?_recordAll`).  As long as an
entry is undecided the gate is closed: nothing is copied, and the number of such entries is said
(`Conflict.gate`).
-/

namespace Reconcile
namespace Conflict

/-- A decision about the entry with a number. -/
structure Decision where
  index : Nat
  disposition : Disposition
deriving DecidableEq, Repr

/-- Makes a decision.  The entries stay as they are if it is refused. -/
def record (entries : List ConflictEntry) (d : Decision) : List ConflictEntry :=
  match resolveAt entries d.index d.disposition with
  | some (.ok entries') => entries'
  | _ => entries

/-- Makes decisions one after the other. -/
def recordAll (entries : List ConflictEntry) (ds : List Decision) : List ConflictEntry :=
  ds.foldl record entries

/-- The last disposition that was given to the entry with the number `i`. -/
def lastGiven (ds : List Decision) (i : Nat) : Option Disposition :=
  ((ds.filter fun d => d.index = i ∧ d.disposition ≠ .unresolved).getLast?).map Decision.disposition

variable {entries : List ConflictEntry} {e : ConflictEntry} {d : Decision} {ds : List Decision}
  {i : Nat}

/-! ## One decision -/

lemma resolveAt_unresolved (entries : List ConflictEntry) (i : Nat) :
    resolveAt entries i .unresolved =
      entries[i]?.map fun e => .error (.invalidDisposition e.relativePath) := by
  rw [resolveAt]
  rfl

lemma resolveAt_of_ne {disposition : Disposition} (h : disposition ≠ .unresolved) :
    resolveAt entries i disposition =
      entries[i]?.map fun e => .ok (entries.set i { e with disposition := disposition }) := by
  rw [resolveAt]
  congr 1
  funext e
  rw [ConflictEntry.resolve, if_neg h]
  rfl

lemma record_of_unresolved (h : d.disposition = .unresolved) : record entries d = entries := by
  rw [record, h, resolveAt_unresolved]
  cases entries[d.index]? <;> rfl

/-- A decision changes the disposition of its entry and nothing else. -/
lemma getElem?_record (entries : List ConflictEntry) (d : Decision) (i : Nat) :
    (record entries d)[i]? = entries[i]?.map fun e =>
      if d.index = i ∧ d.disposition ≠ .unresolved then { e with disposition := d.disposition }
      else e := by
  by_cases h : d.disposition = .unresolved
  · simp [record_of_unresolved h, h]
  rw [record, resolveAt_of_ne h]
  cases hentry : entries[d.index]? with
  | none =>
    -- There is no such entry, so no entry at all has this number.
    rcases eq_or_ne d.index i with rfl | hne
    · simp [hentry]
    · simp [hne]
  | some e =>
    obtain ⟨hlt, -⟩ := List.getElem?_eq_some_iff.1 hentry
    simp only [Option.map_some, List.getElem?_set]
    rcases eq_or_ne d.index i with rfl | hne
    · rw [hentry]
      simp [hlt, h]
    · simp [hne]

/-! ## All decisions -/

lemma lastGiven_concat :
    lastGiven (ds ++ [d]) i =
      if d.index = i ∧ d.disposition ≠ .unresolved then some d.disposition else lastGiven ds i := by
  rw [lastGiven, List.filter_append]
  split
  · rename_i h
    simp [h]
  · rename_i h
    simp [lastGiven, h]

/-- No entry is given back its indecision. -/
lemma lastGiven_ne_unresolved : lastGiven ds i ≠ some .unresolved := by
  intro h
  obtain ⟨d, hd, hdisposition⟩ := Option.map_eq_some_iff.1 h
  have hmem := List.mem_of_getLast? hd
  simp [hdisposition] at hmem

/-- After some decisions every entry has the disposition that it was given last. -/
theorem getElem?_recordAll (entries : List ConflictEntry) (ds : List Decision) (i : Nat) :
    (recordAll entries ds)[i]? = entries[i]?.map fun e =>
      { e with disposition := (lastGiven ds i).getD e.disposition } := by
  induction ds using List.reverseRecOn with
  | nil => simp [recordAll, lastGiven]
  | append_singleton ds d ih =>
    have hrun : recordAll entries (ds ++ [d]) = record (recordAll entries ds) d := by
      rw [recordAll, recordAll, List.foldl_append, List.foldl_cons, List.foldl_nil]
    rw [hrun, getElem?_record, ih, Option.map_map, lastGiven_concat]
    congr 1
    funext e
    rw [Function.comp_apply]
    split <;> rfl

/-- All entries after some decisions. -/
theorem recordAll_eq (entries : List ConflictEntry) (ds : List Decision) :
    recordAll entries ds = entries.mapIdx fun i e =>
      { e with disposition := (lastGiven ds i).getD e.disposition } := by
  refine List.ext_getElem? fun i => ?_
  rw [getElem?_recordAll, List.getElem?_mapIdx]

/-- An entry that is decided stays decided. -/
lemma resolved_recordAll {e' : ConflictEntry} (h : entries[i]? = some e)
    (h' : (recordAll entries ds)[i]? = some e') (hresolved : e.disposition ≠ .unresolved) :
    e'.disposition ≠ .unresolved := by
  rw [getElem?_recordAll, h, Option.map_some, Option.some.injEq] at h'
  subst h'
  cases hlast : lastGiven ds i with
  | none => exact hresolved
  | some disposition =>
    rintro rfl
    exact lastGiven_ne_unresolved hlast

/-! ## The gate -/

/-- The number of entries that are not decided. -/
def undecided (entries : List ConflictEntry) : Nat :=
  entries.countP fun e => e.disposition = .unresolved

lemma allResolved_iff :
    allResolved entries = true ↔ ∀ e ∈ entries, e.disposition ≠ .unresolved := by
  simp [allResolved, ConflictEntry.isResolved]

lemma undecided_pos_iff : 0 < undecided entries ↔ allResolved entries = false := by
  rw [undecided, List.countP_pos_iff, ← Bool.not_eq_true, allResolved_iff]
  simp

lemma checkAllResolved_eq :
    checkAllResolved entries =
      if 0 < undecided entries then .error (.unresolved (undecided entries)) else .ok () := by
  have hcount : entries.countP (fun e => !e.isResolved) = undecided entries := by
    simp [undecided, ConflictEntry.isResolved]
  simp only [checkAllResolved, hcount]

/-- While the gate is closed nothing is copied, whatever is to be copied in any tree. -/
structure Closed (entries : List ConflictEntry) (error : ConflictError) : Prop where
  retrieve : ∀ results fs, (retrieve results entries).on fs = (.error error, fs)
  prepareDeploy : ∀ fs, (prepareDeploy entries).on fs = (.error error, fs)

lemma closed_of_check {error : ConflictError} (h : checkAllResolved entries = .error error) :
    Closed entries error where
  retrieve results fs := by
    rw [Reconcile.retrieve, runIfResolved, h]
    rfl
  prepareDeploy fs := by
    rw [Reconcile.prepareDeploy, runIfResolved, h]
    rfl

/-- The gate is open exactly if all entries are decided.  Else it says how many are not, and is
closed. -/
structure Gate (entries : List ConflictEntry) : Prop where
  open_iff : checkAllResolved entries = .ok () ↔ allResolved entries = true
  all_iff : allResolved entries = true ↔ ∀ e ∈ entries, e.disposition ≠ .unresolved
  error_iff : ∀ error, checkAllResolved entries = .error error ↔
    allResolved entries = false ∧ error = .unresolved (undecided entries)
  closed : ∀ error, checkAllResolved entries = .error error → Closed entries error

theorem gate (entries : List ConflictEntry) : Gate entries where
  open_iff := by
    rw [checkAllResolved_eq, ← Bool.not_eq_false, ← undecided_pos_iff]
    split <;> simp_all
  all_iff := allResolved_iff
  error_iff error := by
    rw [checkAllResolved_eq, ← undecided_pos_iff]
    split <;> simp_all [eq_comm]
  closed _ := closed_of_check

/-- **Decisions are kept, and nothing is copied before all are made.**  To take a decision back is
refused and changes nothing; any other decision changes the disposition of its entry.  After any
decisions every entry has the disposition that it was given last, or the one that it had before if
it was given none, so that no entry becomes undecided; and the gate is open or closed
accordingly. -/
theorem decisions_kept (entries : List ConflictEntry) :
    (∀ i e, entries[i]? = some e →
      resolveAt entries i .unresolved = some (.error (.invalidDisposition e.relativePath)) ∧
        record entries ⟨i, .unresolved⟩ = entries ∧
        ∀ disposition, disposition ≠ .unresolved →
          resolveAt entries i disposition =
            some (.ok (entries.set i { e with disposition := disposition }))) ∧
      ∀ ds,
        (recordAll entries ds = entries.mapIdx fun i e =>
          { e with disposition := (lastGiven ds i).getD e.disposition }) ∧
        (∀ (i : Nat) (e e' : ConflictEntry), entries[i]? = some e →
          (recordAll entries ds)[i]? = some e' → e.disposition ≠ .unresolved →
            e'.disposition ≠ .unresolved) ∧
        Gate (recordAll entries ds) := by
  constructor
  · intro i e he
    refine ⟨by rw [resolveAt_unresolved, he]; rfl, record_of_unresolved rfl, fun _ h => ?_⟩
    rw [resolveAt_of_ne h, he]
    rfl
  · intro ds
    exact ⟨recordAll_eq entries ds, fun _ _ _ => resolved_recordAll, gate _⟩

end Conflict
end Reconcile
