import Reconcile.Manifest.Basic
import Reconcile.Proofs.Sorted
import Reconcile.Proofs.Walk.Yield

/-!
# What a manifest names

A manifest is determined by the names it has (`Manifest.ext_of_names_iff`): types and members are in
order, and no type is there without a member.  To name one more changes nothing else
(`Manifest.names_add`).  So the manifest of a tree depends on what the components of its files
are, but neither on their order nor on how often they occur (`Manifest.ofTree_eq_ok_iff`).
-/

namespace Reconcile

open Walk (yielded FaultFree Item filesOf)

namespace Members

variable {m : Members} {member n : String}

lemma mem_insert : n ∈ (m.insert member).toList ↔ n ∈ m.toList ∨ n = member := by
  rw [SortedList.mem_toList_insert]
  simp only [id_eq]
  constructor
  · rintro (h | ⟨h, -⟩)
    · exact Or.inl h
    · exact Or.inr h
  · rintro (h | rfl)
    · exact Or.inl h
    · by_cases hmem : n ∈ m.toList
      · exact Or.inl hmem
      · exact Or.inr ⟨rfl, fun b hb heq => hmem (heq ▸ hb)⟩

end Members

namespace Group

variable {g g' : Group} {typeName member n : String}

lemma mem_add : n ∈ (g.add member).members.toList ↔ n ∈ g.members.toList ∨ n = member :=
  Members.mem_insert

lemma mem_single : n ∈ (single typeName member).members.toList ↔ n = member := by
  rw [single, Members.mem_insert]
  simp

lemma ext_of_mem_iff (htype : g.typeName = g'.typeName)
    (h : ∀ n, n ∈ g.members.toList ↔ n ∈ g'.members.toList) : g = g' := by
  have hmembers : g.members = g'.members := SortedList.ext_of_mem_iff h
  cases g
  cases g'
  simp only at htype hmembers
  subst htype hmembers
  rfl

end Group

namespace Manifest

variable {m m' : Manifest} {t t' n n' : String} {r : Registry} {fs : FileSystem} {config : Config}
  {root : Path}

/-- The manifest names the member `n` of the type `t`. -/
def Names (m : Manifest) (t n : String) : Prop :=
  ∃ g ∈ m.groups.toList, g.typeName = t ∧ n ∈ g.members.toList

lemma not_names_empty : ¬ empty.Names t n := by
  rintro ⟨g, hg, -⟩
  exact absurd hg List.not_mem_nil

lemma names_typeName_iff {g : Group} (hg : g ∈ m.groups.toList) :
    m.Names g.typeName n ↔ n ∈ g.members.toList := by
  constructor
  · rintro ⟨g', hg', htype, hn⟩
    rwa [SortedList.eq_of_key_eq hg' hg htype] at hn
  · intro hn
    exact ⟨g, hg, rfl, hn⟩

/-- A manifest is what it names. -/
theorem ext_of_names_iff (h : ∀ t n, m.Names t n ↔ m'.Names t n) : m = m' := by
  have hsub : ∀ {m m' : Manifest}, (∀ t n, m.Names t n ↔ m'.Names t n) →
      ∀ g ∈ m.groups.toList, g ∈ m'.groups.toList := by
    intro m m' h g hg
    -- The group has a member, by which its type is found in the other manifest.
    obtain ⟨n, hn⟩ := List.exists_mem_of_ne_nil _ g.nonempty
    obtain ⟨g', hg', htype, -⟩ := (h g.typeName n).1 ⟨g, hg, rfl, hn⟩
    have hgroup : g' = g := by
      refine Group.ext_of_mem_iff htype fun n => ?_
      rw [← names_typeName_iff hg', ← names_typeName_iff hg, htype, h]
    exact hgroup ▸ hg'
  have hgroups : m.groups = m'.groups :=
    SortedList.ext_of_mem_iff fun g => ⟨hsub h g, hsub (fun t n => (h t n).symm) g⟩
  cases m
  cases m'
  simp only at hgroups
  rw [hgroups]

lemma mem_groups_add {g : Group} :
    g ∈ (m.add t n).groups.toList ↔
      (g ∈ m.groups.toList ∧ g.typeName ≠ t) ∨
        (∃ g' ∈ m.groups.toList, g'.typeName = t ∧ g = g'.add n) ∨
        (g = .single t n ∧ ∀ g' ∈ m.groups.toList, g'.typeName ≠ t) := by
  have hkeeps : ∀ g : Group, (g.add n).typeName = g.typeName := fun _ => rfl
  exact SortedList.mem_upsert hkeeps

/-- What is named after one more member. -/
theorem names_add : (m.add t n).Names t' n' ↔ m.Names t' n' ∨ (t' = t ∧ n' = n) := by
  constructor
  · rintro ⟨g, hg, rfl, hn⟩
    rcases mem_groups_add.1 hg with ⟨hg, -⟩ | ⟨g', hg', htype, rfl⟩ | ⟨rfl, -⟩
    · exact Or.inl ⟨g, hg, rfl, hn⟩
    · exact (Group.mem_add.1 hn).imp (fun hn => ⟨g', hg', rfl, hn⟩) fun hn => ⟨htype, hn⟩
    · exact Or.inr ⟨rfl, Group.mem_single.1 hn⟩
  · rintro (⟨g, hg, rfl, hn⟩ | ⟨rfl, rfl⟩)
    · by_cases htype : g.typeName = t
      · exact ⟨g.add n, mem_groups_add.2 (Or.inr (Or.inl ⟨g, hg, htype, rfl⟩)), rfl,
          Group.mem_add.2 (Or.inl hn)⟩
      · exact ⟨g, mem_groups_add.2 (Or.inl ⟨hg, htype⟩), rfl, hn⟩
    · by_cases htype : ∃ g ∈ m.groups.toList, g.typeName = t'
      · obtain ⟨g, hg, rfl⟩ := htype
        exact ⟨g.add n', mem_groups_add.2 (Or.inr (Or.inl ⟨g, hg, rfl, rfl⟩)), rfl,
          Group.mem_add.2 (Or.inr rfl)⟩
      · refine ⟨.single t' n', mem_groups_add.2 (Or.inr (Or.inr ⟨rfl, ?_⟩)), rfl,
          Group.mem_single.2 rfl⟩
        exact fun g hg hkey => htype ⟨g, hg, hkey⟩

/-- What is named after some more components. -/
lemma names_foldl_addComponent {cs : List MetadataComponent} :
    (cs.foldl addComponent m).Names t n ↔
      m.Names t n ∨ ∃ c ∈ cs, c.type.name = t ∧ c.fullName = n := by
  induction cs generalizing m with
  | nil => simp
  | cons c cs ih =>
    rw [List.foldl_cons, ih, addComponent, names_add]
    simp only [List.mem_cons, exists_eq_or_imp, or_assoc]
    rw [eq_comm (a := t), eq_comm (a := n)]

/-! ## The manifest of a tree -/

/-- The files that have a component are collected, the others are passed over. -/
lemma collect_eq_ok_iff {classify : Path → Except ClassifyError MetadataComponent}
    {items : List Item} :
    collect classify m items = .ok m' ↔
      (∀ f, .fault f ∉ items) ∧
        m' = ((filesOf items).filterMap fun p => (classify p).toOption).foldl addComponent m := by
  rw [List.foldl_filterMap]
  refine Walk.Gathers.eq_ok_iff ⟨fun _ => rfl, fun m p items => ?_, fun _ f _ => ⟨.walk f, rfl⟩⟩
  rw [collect]
  cases classify p <;> rfl

/-- The manifest of a tree names the components of the files that the walk yields. -/
theorem ofTree_eq_ok_iff :
    ofTree r fs config root = .ok m ↔
      FaultFree fs config root ∧ ∀ t n, m.Names t n ↔
        ∃ p ∈ yielded fs config root, ∃ c, r.classify fs (root.join p) = .ok c ∧
          c.type.name = t ∧ c.fullName = n := by
  rw [ofTree]
  cases hwalk : walk fs config root with
  | error e => simp [FaultFree, hwalk]
  | ok items =>
    simp only [collect_eq_ok_iff, Walk.faultFree_iff_of_walk hwalk, Walk.yielded_of_walk hwalk]
    refine and_congr_right fun _ => ?_
    have hnames : ∀ t n, (((filesOf items).filterMap
        fun p => (r.classify fs (root.join p)).toOption).foldl addComponent empty).Names t n ↔
          ∃ p ∈ filesOf items, ∃ c, r.classify fs (root.join p) = .ok c ∧
            c.type.name = t ∧ c.fullName = n := by
      intro t n
      have hok : ∀ p c, (r.classify fs (root.join p)).toOption = some c ↔
          r.classify fs (root.join p) = .ok c := by
        intro p c
        cases r.classify fs (root.join p) <;> simp [Except.toOption]
      simp only [names_foldl_addComponent, not_names_empty, false_or, List.mem_filterMap, hok]
      constructor
      · rintro ⟨c, ⟨p, hp, hc⟩, hname⟩
        exact ⟨p, hp, c, hc, hname⟩
      · rintro ⟨p, hp, c, hc, hname⟩
        exact ⟨c, ⟨p, hp, hc⟩, hname⟩
    constructor
    · rintro rfl
      exact hnames
    · intro h
      exact ext_of_names_iff fun t n => (h t n).trans (hnames t n).symm

end Manifest
end Reconcile
