import Reconcile.Proofs.Manifest.Names

/-!
# The manifest of a tree

The manifest of a tree is made unless the walk fails: the root is no directory, or the walk meets a
fault, and the first one is reported (`Manifest.ofTree_eq_error_iff`).  A file that has no component
is never the reason.  What is listed are the components of the files that the walk yields, so any
list of these components gives the same manifest (`Manifest.ofTree_exact`).
-/

namespace Reconcile

open Walk (yielded FaultFree Item)

namespace Manifest

variable {m : Manifest} {t n : String} {ms : List String} {r : Registry} {fs : FileSystem}
  {config : Config} {root : Path} {e : DiffError}

/-! ## Members of a type -/

lemma members?_eq_some_iff :
    m.members? t = some ms ↔
      ∃ g ∈ m.groups.toList, g.typeName = t ∧ g.members.toList = ms := by
  rw [members?, Option.map_eq_some_iff]
  simp only [SortedList.find?_eq_some_iff, and_assoc]

/-- A name is listed under its type. -/
lemma names_iff_members? : m.Names t n ↔ ∃ ms, m.members? t = some ms ∧ n ∈ ms := by
  simp only [members?_eq_some_iff, Names]
  constructor
  · rintro ⟨g, hg, htype, hn⟩
    exact ⟨_, ⟨g, hg, htype, rfl⟩, hn⟩
  · rintro ⟨_, ⟨g, hg, htype, rfl⟩, hn⟩
    exact ⟨g, hg, htype, hn⟩

/-- No type is listed without a member. -/
lemma ne_nil_of_members? (h : m.members? t = some ms) : ms ≠ [] := by
  obtain ⟨g, -, -, rfl⟩ := members?_eq_some_iff.1 h
  exact g.nonempty

/-- A manifest is empty if it names nothing. -/
lemma isEmpty_iff : m.isEmpty = true ↔ ∀ t n, ¬ m.Names t n := by
  rw [isEmpty, SortedList.isEmpty, List.isEmpty_iff]
  constructor
  · rintro h t n ⟨g, hg, -⟩
    rw [h] at hg
    exact List.not_mem_nil hg
  · intro h
    refine List.eq_nil_iff_forall_not_mem.2 fun g hg => ?_
    obtain ⟨n, hn⟩ := List.exists_mem_of_ne_nil _ g.nonempty
    exact h _ n ⟨g, hg, rfl, hn⟩

/-- What a manifest of some components names. -/
lemma names_ofComponents {cs : List MetadataComponent} :
    (ofComponents cs).Names t n ↔ ∃ c ∈ cs, c.type.name = t ∧ c.fullName = n := by
  rw [ofComponents, names_foldl_addComponent, or_iff_right not_names_empty]

/-! ## When there is none -/

/-- The first fault is reported, whatever the components of the files in front of it are. -/
lemma collect_eq_error_iff {classify : Path → Except ClassifyError MetadataComponent}
    {items : List Item} :
    collect classify m items = .error e ↔
      ∃ before fault after, items = before ++ .fault fault :: after ∧
        (∀ f, .fault f ∉ before) ∧ e = .walk fault := by
  induction items generalizing m with
  | nil => simp [collect]
  | cons item items ih =>
    cases item with
    | file p =>
      have hrest : collect classify m (.file p :: items) = .error e ↔
          ∃ before fault after, items = before ++ .fault fault :: after ∧
            (∀ f, .fault f ∉ before) ∧ e = .walk fault := by
        rw [collect]
        split <;> exact ih
      rw [hrest]
      constructor
      · rintro ⟨before, fault, after, rfl, hbefore, rfl⟩
        exact ⟨.file p :: before, fault, after, rfl, by simpa using hbefore, rfl⟩
      · rintro ⟨_ | ⟨item, before⟩, fault, after, hitems, hbefore, rfl⟩
        · cases (List.cons.inj hitems).1
        · exact ⟨before, fault, after, (List.cons.inj hitems).2,
            fun f hf => hbefore f (List.mem_cons_of_mem _ hf), rfl⟩
    | fault f =>
      rw [collect, Except.error.injEq]
      constructor
      · rintro rfl
        exact ⟨[], f, items, rfl, fun _ => List.not_mem_nil, rfl⟩
      · rintro ⟨_ | ⟨item, before⟩, fault, after, hitems, hbefore, rfl⟩
        · cases (List.cons.inj hitems).1
          rfl
        · obtain ⟨rfl, -⟩ := List.cons.inj hitems
          exact absurd List.mem_cons_self (hbefore f)

/-- There is no manifest of a tree if the root is no directory or the walk meets a fault. -/
theorem ofTree_eq_error_iff :
    ofTree r fs config root = .error e ↔
      (fs.isDirectoryAt root = false ∧ e = .rootNotFound root) ∨
        ∃ before fault after, walk fs config root = .ok (before ++ .fault fault :: after) ∧
          (∀ f, .fault f ∉ before) ∧ e = .walk fault := by
  rw [ofTree, ← walk_eq_error_iff config]
  cases walk fs config root with
  | error e' => simp
  | ok items => simp [collect_eq_error_iff]

lemma exists_ofTree_error_iff :
    (∃ e, ofTree r fs config root = .error e) ↔
      fs.isDirectoryAt root = false ∨
        ∃ items fault, walk fs config root = .ok items ∧ .fault fault ∈ items := by
  constructor
  · rintro ⟨e, herror⟩
    rcases ofTree_eq_error_iff.1 herror with ⟨hroot, -⟩ | ⟨before, fault, after, hwalk, -⟩
    · exact Or.inl hroot
    · exact Or.inr ⟨_, fault, hwalk, by simp⟩
  · rintro (hroot | ⟨items, fault, hwalk, hfault⟩)
    · exact ⟨_, ofTree_eq_error_iff.2 (Or.inl ⟨hroot, rfl⟩)⟩
    · cases htree : ofTree r fs config root with
      | error e => exact ⟨e, rfl⟩
      | ok m =>
        have hfree := (ofTree_eq_ok_iff.1 htree).1
        exact absurd hfault ((Walk.faultFree_iff_of_walk hwalk).1 hfree fault)

/-! ## What it lists -/

/-- A component of a file that the walk below a root yields. -/
def OfFile (r : Registry) (fs : FileSystem) (config : Config) (root : Path)
    (c : MetadataComponent) : Prop :=
  ∃ p ∈ yielded fs config root, r.classify fs (root.join p) = .ok c

/-- The manifest lists the components of the files below a root. -/
structure Exact (r : Registry) (fs : FileSystem) (config : Config) (root : Path) (m : Manifest) :
    Prop where
  listed : ∀ t n, (∃ ms, m.members? t = some ms ∧ n ∈ ms) ↔
    ∃ c, OfFile r fs config root c ∧ c.type.name = t ∧ c.fullName = n
  /-- The components may be given in any order, and more than once. -/
  ofComponents : ∀ cs, (∀ c, c ∈ cs ↔ OfFile r fs config root c) → ofComponents cs = m
  nonempty : ∀ t ms, m.members? t = some ms → ms ≠ []
  isEmpty_iff : m.isEmpty = true ↔
    ∀ p ∈ yielded fs config root, ∃ e, r.classify fs (root.join p) = .error e

lemma exact_of_ofTree (h : ofTree r fs config root = .ok m) : Exact r fs config root m := by
  have hnames : ∀ t n, m.Names t n ↔
      ∃ c, OfFile r fs config root c ∧ c.type.name = t ∧ c.fullName = n := by
    intro t n
    rw [(ofTree_eq_ok_iff.1 h).2]
    constructor
    · rintro ⟨p, hp, c, hc, hname⟩
      exact ⟨c, ⟨p, hp, hc⟩, hname⟩
    · rintro ⟨c, ⟨p, hp, hc⟩, hname⟩
      exact ⟨p, hp, c, hc, hname⟩
  refine ⟨fun t n => ?_, fun cs hcs => ?_, fun t ms => ne_nil_of_members?, ?_⟩
  · rw [← names_iff_members?, hnames]
  · refine ext_of_names_iff fun t n => ?_
    simp only [names_ofComponents, hnames, hcs]
  · rw [Manifest.isEmpty_iff]
    constructor
    · intro hempty p hp
      cases hc : r.classify fs (root.join p) with
      | error e => exact ⟨e, rfl⟩
      | ok c => exact absurd ((hnames _ _).2 ⟨c, ⟨p, hp, hc⟩, rfl, rfl⟩) (hempty _ _)
    · intro hnone t n hname
      obtain ⟨c, ⟨p, hp, hc⟩, -⟩ := (hnames t n).1 hname
      obtain ⟨e, herror⟩ := hnone p hp
      rw [hc] at herror
      cases herror

/-- **The manifest of a tree is exact.**  There is one unless the root is no directory or the walk
meets a fault, and these are the only failures that are reported.  It lists the components of the
files that the walk yields and nothing else. -/
theorem ofTree_exact (r : Registry) (fs : FileSystem) (config : Config) (root : Path) :
    ((∃ e, ofTree r fs config root = .error e) ↔
      fs.isDirectoryAt root = false ∨
        ∃ items fault, walk fs config root = .ok items ∧ .fault fault ∈ items) ∧
      (∀ e, ofTree r fs config root = .error e → e = .rootNotFound root ∨
        ∃ items fault, walk fs config root = .ok items ∧ .fault fault ∈ items ∧
          e = .walk fault) ∧
      ∀ m, ofTree r fs config root = .ok m → Exact r fs config root m := by
  refine ⟨exists_ofTree_error_iff, fun e herror => ?_, fun _ => exact_of_ofTree⟩
  rcases ofTree_eq_error_iff.1 herror with ⟨-, rfl⟩ | ⟨before, fault, after, hwalk, -, rfl⟩
  · exact Or.inl rfl
  · exact Or.inr ⟨_, fault, hwalk, by simp, rfl⟩

end Manifest
end Reconcile
