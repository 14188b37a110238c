import Reconcile.Proofs.Manifest.Tree
import Reconcile.Proofs.Registry.Classify
import Reconcile.Registry.Bundled

/-!
# Contents and descriptor are one component

A file with contents and its descriptor are accepted as the same component: the descriptor of
accepted contents is accepted (`Registry.Accepted.at_descriptor`), and so are the contents that an
accepted descriptor lists (`Registry.Accepted.at_contents`).  The first needs a registry in which
no suffix is empty or looks like that of a descriptor (`Registry.Tidy`).  So the two files name the
same member of a manifest, and it is listed once (`Registry.pair_agrees`).
-/

namespace Reconcile

/-- What is named is listed once. -/
lemma Manifest.Names.count {m : Manifest} {t n : String} (h : m.Names t n) :
    ∃ members, m.members? t = some members ∧ members.count n = 1 := by
  obtain ⟨g, hg, htype, hn⟩ := h
  exact ⟨g.members.toList, members?_eq_some_iff.2 ⟨g, hg, htype, rfl⟩,
    List.count_eq_one_of_mem g.members.nodup hn⟩

namespace Registry

open Walk (yielded)

/-- No registered suffix is empty or ends as the name of a descriptor does. -/
def Tidy (r : Registry) : Prop :=
  ∀ suffix id, r.idForSuffix suffix = some id →
    suffix ≠ "" ∧ ¬ descriptorEnd <:+ suffix.toList

/-- Both files of a pair are the same component. -/
structure Paired (r : Registry) (fs : FileSystem) : Prop where
  descriptor : ∀ p c, r.classify fs p = .ok c → p ∈ c.sources →
    r.classify fs (descriptorOf p) = .ok c
  contents : ∀ d q c, r.classify fs d = .ok c → c.xmlPath = d → c.sources = [q] →
    r.classify fs q = .ok c
  /-- Whether the walk yields both files or one of them, the manifest lists the names of the other
  files and the name of the pair, which is listed once. -/
  member : ∀ config root m q c, Manifest.ofTree r fs config root = .ok m →
    r.classify fs (root.join q) = .ok c → root.join q ∈ c.sources →
    q ∈ yielded fs config root ∨ descriptorOf q ∈ yielded fs config root →
    (∀ t n, m.Names t n ↔ (t = c.type.name ∧ n = c.fullName) ∨
      ∃ p ∈ yielded fs config root, p ≠ q ∧ p ≠ descriptorOf q ∧
        ∃ c', r.classify fs (root.join p) = .ok c' ∧ c'.type.name = t ∧ c'.fullName = n) ∧
    ∃ members, m.members? c.type.name = some members ∧ members.count c.fullName = 1

variable {r : Registry} {fs : FileSystem} {p d q root : Path} {c : MetadataComponent}
  {config : Config} {m : Manifest}

/-! ## From one file to the other -/

/-- The descriptor of accepted contents is the same component. -/
theorem Accepted.at_descriptor (hr : r.Tidy) (h : Accepted r fs p c) (hp : p ∈ c.sources) :
    Accepted r fs (descriptorOf p) c := by
  cases h with
  | @contents cs folder base extension id type hspells hexists hid hdescriptor htype =>
    obtain ⟨hne, -⟩ := hr _ _ hid
    have hextension : extension ≠ [] := by
      rintro rfl
      exact hne rfl
    have hnone : r.idForSuffix (String.ofList (extension ++ descriptorEnd)) = none := by
      rw [Option.eq_none_iff_forall_ne_some]
      intro id' hid'
      obtain ⟨-, hend⟩ := hr _ _ hid'
      rw [String.toList_ofList] at hend
      exact hend (List.suffix_append extension descriptorEnd)
    have haccepted :=
      Accepted.descriptor hspells.described hdescriptor hnone hextension hid rfl htype
    rwa [if_pos hexists] at haccepted
  | descriptor hspells hexists hnone hsuffix hid hq htype =>
    -- A descriptor is not among the contents, which have the shorter path.
    exfalso
    simp only [component] at hp
    split at hp
    · rw [List.mem_singleton.1 hp] at hq
      exact descriptorOf_ne _ hq
    · exact List.not_mem_nil hp

/-- The contents that an accepted descriptor lists are the same component. -/
theorem Accepted.at_contents (h : Accepted r fs d c) (hd : c.xmlPath = d)
    (hq : c.sources = [q]) : Accepted r fs q c := by
  cases h with
  | contents => exact absurd hd (descriptorOf_ne d)
  | @descriptor cs folder base suffix id type q' hspells hexists hnone hsuffix hid hq' htype =>
    obtain ⟨ds, -, hds, hcontents⟩ := hspells.contents
    obtain rfl := descriptorOf_injective (hds.trans hq'.symm)
    simp only [component] at hq
    split at hq
    · rename_i hexists'
      obtain rfl := List.head_eq_of_cons_eq hq
      have haccepted := Accepted.contents hcontents hexists' hid (hq'.symm ▸ hexists) htype
      rw [hq'] at haccepted
      rwa [if_pos hexists']
    · cases hq

/-! ## The manifest -/

lemma join_descriptorOf (root q : Path) :
    root.join (descriptorOf q) = descriptorOf (root.join q) := by
  have habsolute : (descriptorOf q).isAbsolute = q.isAbsolute := by
    cases hq : q.bytes with
    | nil =>
      rw [Path.isAbsolute, Path.isAbsolute, descriptorOf, hq]
      decide
    | cons b bytes => rw [Path.isAbsolute, Path.isAbsolute, descriptorOf, hq]; rfl
  rw [Path.join, Path.join, habsolute]
  split
  · rfl
  split
  · simp [descriptorOf]
  · simp [descriptorOf]

/-- The name of a pair is listed, and no other name for its sake. -/
lemma names_iff_of_pair (hm : Manifest.ofTree r fs config root = .ok m)
    (hq : r.classify fs (root.join q) = .ok c)
    (hd : r.classify fs (root.join (descriptorOf q)) = .ok c)
    (hyielded : q ∈ yielded fs config root ∨ descriptorOf q ∈ yielded fs config root)
    (t n : String) :
    m.Names t n ↔ (t = c.type.name ∧ n = c.fullName) ∨
      ∃ p ∈ yielded fs config root, p ≠ q ∧ p ≠ descriptorOf q ∧
        ∃ c', r.classify fs (root.join p) = .ok c' ∧ c'.type.name = t ∧ c'.fullName = n := by
  rw [(Manifest.ofTree_eq_ok_iff.1 hm).2]
  constructor
  · rintro ⟨p, hp, c', hc', htype, hname⟩
    by_cases hpair : p = q ∨ p = descriptorOf q
    · have hsame : c' = c := by
        rcases hpair with rfl | rfl
        · exact Except.ok.inj (hc'.symm.trans hq)
        · exact Except.ok.inj (hc'.symm.trans hd)
      exact Or.inl ⟨hsame ▸ htype.symm, hsame ▸ hname.symm⟩
    · exact Or.inr ⟨p, hp, fun h => hpair (Or.inl h), fun h => hpair (Or.inr h), c', hc', htype,
        hname⟩
  · rintro (⟨rfl, rfl⟩ | ⟨p, hp, -, -, c', hc', hname⟩)
    · rcases hyielded with hyielded | hyielded
      · exact ⟨q, hyielded, c, hq, rfl, rfl⟩
      · exact ⟨descriptorOf q, hyielded, c, hd, rfl, rfl⟩
    · exact ⟨p, hp, c', hc', hname⟩

/-- **Contents and descriptor are the same component.**  Each of the two files leads to the other,
and in the manifest of a tree a pair has one member. -/
theorem pair_agrees (hr : r.Tidy) (fs : FileSystem) : Paired r fs := by
  have hdescriptor : ∀ p c, r.classify fs p = .ok c → p ∈ c.sources →
      r.classify fs (descriptorOf p) = .ok c := by
    intro p c hc hp
    rw [classify_eq_ok_iff] at hc ⊢
    exact hc.at_descriptor hr hp
  refine ⟨hdescriptor, fun d q c hc hd hq => ?_, fun config root m q c hm hc hq hyielded => ?_⟩
  · rw [classify_eq_ok_iff] at hc ⊢
    exact hc.at_contents hd hq
  · have hdesc : r.classify fs (root.join (descriptorOf q)) = .ok c := by
      rw [join_descriptorOf]
      exact hdescriptor _ _ hc hq
    have hnames := names_iff_of_pair hm hc hdesc hyielded
    exact ⟨hnames, ((hnames _ _).2 (Or.inl ⟨rfl, rfl⟩)).count⟩

lemma tidy_bundled : bundled.Tidy := by
  have hentries : ∀ e ∈ bundled.suffixes.toList, e.1 ≠ "" ∧ ¬ descriptorEnd <:+ e.1.toList := by
    decide
  intro suffix id hid
  obtain ⟨e, hfound, rfl⟩ := Option.map_eq_some_iff.1 hid
  obtain ⟨he, rfl⟩ := SortedList.find?_eq_some_iff.1 hfound
  exact hentries e he

/-- A file `ge.report` and its descriptor, in the folder `fe`. -/
def filed : FileSystem where
  top := .directory ⟨[102, 101], by decide⟩
    (.file ⟨[103, 101, 46, 114, 101, 112, 111, 114, 116], by decide⟩ [1]
      (.file ⟨[103, 101, 46, 114, 101, 112, 111, 114, 116, 45, 109, 101, 116, 97, 46, 120, 109,
        108], by decide⟩ [2] .nil)) .nil
  distinct := by decide
  current := []

/-- The path of the file in the folder. -/
def filedPath : Path := ⟨[103, 101, 46, 114, 101, 112, 111, 114, 116]⟩

/-- The component of both files. -/
def filedReport : MetadataComponent where
  fullName := "fe/ge"
  type := folderType "Report" "reports" (some "report")
  xmlPath := descriptorOf (Path.join ⟨[102, 101]⟩ filedPath)
  sources := [Path.join ⟨[102, 101]⟩ filedPath]

/-- In the bundled registry both files are the report `fe/ge`, which is listed once. -/
theorem pair_agrees_filed :
    bundled.Tidy ∧
      bundled.classify filed (Path.join ⟨[102, 101]⟩ filedPath) = .ok filedReport ∧
      bundled.classify filed (descriptorOf (Path.join ⟨[102, 101]⟩ filedPath)) =
        .ok filedReport ∧
      ∃ m members, Manifest.ofTree bundled filed ⟨.nothing, true, true⟩ ⟨[102, 101]⟩ = .ok m ∧
        m.members? "Report" = some members ∧ members.count "fe/ge" = 1 := by
  have hpaired := pair_agrees tidy_bundled filed
  have hcontents : bundled.classify filed (Path.join ⟨[102, 101]⟩ filedPath) = .ok filedReport :=
    rfl
  have hdescriptor := hpaired.descriptor _ _ hcontents List.mem_cons_self
  have hwalk : walk filed ⟨.nothing, true, true⟩ ⟨[102, 101]⟩ =
      .ok [.file ⟨[103, 101, 46, 114, 101, 112, 111, 114, 116]⟩,
        .file ⟨[103, 101, 46, 114, 101, 112, 111, 114, 116, 45, 109, 101, 116, 97, 46, 120, 109,
          108]⟩] := by cbv
  have hyielded : filedPath ∈ yielded filed ⟨.nothing, true, true⟩ ⟨[102, 101]⟩ := by
    rw [Walk.yielded_of_walk hwalk]
    exact List.mem_cons_self
  have hm : Manifest.ofTree bundled filed ⟨.nothing, true, true⟩ ⟨[102, 101]⟩ =
      .ok ((Manifest.empty.addComponent filedReport).addComponent filedReport) := by
    rw [Manifest.ofTree, hwalk]
    rfl
  obtain ⟨-, members, hmembers, hcount⟩ := hpaired.member _ _ _ filedPath filedReport hm hcontents
    List.mem_cons_self (Or.inl hyielded)
  exact ⟨tidy_bundled, hcontents, hdescriptor, _, members, hm, hmembers, hcount⟩

end Registry
end Reconcile
