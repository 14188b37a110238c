import Reconcile.Proofs.Manifest.Names
import Reconcile.Proofs.Registry.Respelled
import Reconcile.Proofs.Walk.Relative
import Reconcile.Registry.Bundled

/-!
# Manifests below two spellings of one root

Below two spellings of one root the walk yields the same files, and each of them has a component for
both spellings or for neither, of the same type.  In a directory below the root the components have
the same name.  In the root itself the folder of a component is what stands behind the last slash of
the root's text, so there the names of types kept in folders may differ, and with them the
manifests (`Manifest.ofTree_spelled_with_dot`).  Spellings that end in the same piece have the same
manifest (`Manifest.ofTree_respelled`).
-/

namespace Reconcile

open Walk (yielded FaultFree)
open Registry (descriptorOf Renamed)

namespace Manifest

/-- The root and `q` are both too long or both not, and so are with either of them the paths of all
that the walk comes to, and of the descriptors of its files. -/
structure LengthsAgree (fs : FileSystem) (config : Config) (p q : Path) : Prop where
  walk : (⟨fs, config, p⟩ : Walk).LengthsAgree q
  file : ∀ relative ∈ yielded fs config p,
    (p.join relative).tooLong = (q.join relative).tooLong
  descriptor : ∀ relative ∈ yielded fs config p,
    (descriptorOf (p.join relative)).tooLong = (descriptorOf (q.join relative)).tooLong

/-- In the root itself no file has a component of a type that is kept in folders. -/
def Unfiled (r : Registry) (fs : FileSystem) (config : Config) (root : Path) : Prop :=
  ∀ n c, Path.ofNames [n] ∈ yielded fs config root →
    r.classify fs (root.join (Path.ofNames [n])) = .ok c → c.type.inFolder = false

/-- What a file has for a component below `p` it has below `q`, but for the folder of a file that
stands in the root itself. -/
def Follows (r : Registry) (fs : FileSystem) (p q : Path) (ns : List Name) (n : Name) : Prop :=
  ∀ c, r.classify fs (p.join (Path.ofNames (ns ++ [n]))) = .ok c →
    ∃ c', r.classify fs (q.join (Path.ofNames (ns ++ [n]))) = .ok c' ∧
      Renamed c c' (p.descend ns).lastPiece (q.descend ns).lastPiece ∧
      (ns ≠ [] ∨ p.lastPiece = q.lastPiece ∨ c.type.inFolder = false → c.fullName = c'.fullName)

/-- What two spellings of one root have in common. -/
structure Respelled (r : Registry) (fs : FileSystem) (config : Config) (p q : Path) : Prop where
  walks : Walk.Agree fs config p q
  ok_iff : (∃ m, ofTree r fs config p = .ok m) ↔ ∃ m, ofTree r fs config q = .ok m
  component : ∀ ns n, Path.ofNames (ns ++ [n]) ∈ yielded fs config p →
    Follows r fs p q ns n ∧ Follows r fs q p ns n
  /-- The manifests are the same if the spellings end in the same piece, or if nothing in the root
  shows how they end. -/
  manifest : p.lastPiece = q.lastPiece ∨ Unfiled r fs config p →
    ∀ m, ofTree r fs config p = .ok m ↔ ofTree r fs config q = .ok m

variable {r : Registry} {fs : FileSystem} {config : Config} {p q : Path} {ns : List Name} {n : Name}
  {m : Manifest} {t : String}

lemma ok_iff_faultFree :
    (∃ m, ofTree r fs config p = .ok m) ↔ FaultFree fs config p := by
  constructor
  · rintro ⟨m, hm⟩
    exact (ofTree_eq_ok_iff.1 hm).1
  · intro hfree
    obtain ⟨items, hwalk, hnone⟩ := hfree
    rw [ofTree, hwalk]
    exact ⟨_, collect_eq_ok_iff.2 ⟨hnone, rfl⟩⟩

/-- Below the root, folders are called by their names. -/
lemma lastPiece_descend_congr (p q : Path) (hns : ns ≠ []) :
    (p.descend ns).lastPiece = (q.descend ns).lastPiece := by
  rw [← List.dropLast_concat_getLast hns, Path.descend_concat, Path.descend_concat,
    Path.lastPiece_child, Path.lastPiece_child]

lemma follows (hcomponents : p.components = q.components)
    (hfile : (p.join (Path.ofNames (ns ++ [n]))).tooLong =
      (q.join (Path.ofNames (ns ++ [n]))).tooLong)
    (hdescriptor : (descriptorOf (p.join (Path.ofNames (ns ++ [n])))).tooLong =
      (descriptorOf (q.join (Path.ofNames (ns ++ [n])))).tooLong) :
    Follows r fs p q ns n := by
  intro c hc
  have hpath : ∀ root : Path, root.join (Path.ofNames (ns ++ [n])) = (root.descend ns).child n := by
    intro root
    rw [Path.join_ofNames root (by simp), Path.descend_concat]
  rw [hpath, hpath] at hfile hdescriptor
  rw [hpath] at hc ⊢
  obtain ⟨c', hc', hrenamed⟩ :=
    Registry.classify_child (Path.components_descend_congr hcomponents ns) hfile hdescriptor hc
  refine ⟨c', hc', hrenamed, fun hsame => hrenamed.fullName_eq ?_⟩
  by_cases hns : ns = []
  · subst hns
    exact hsame.resolve_left (fun hne => hne rfl)
  · exact Or.inl (lastPiece_descend_congr p q hns)

/-- Whatever one spelling of the root names the other names. -/
lemma names_of_follows (hyielded : yielded fs config p = yielded fs config q)
    (hfollows : ∀ ns n, Path.ofNames (ns ++ [n]) ∈ yielded fs config p → Follows r fs p q ns n)
    (hsame : ∀ n c, Path.ofNames [n] ∈ yielded fs config p →
      r.classify fs (p.join (Path.ofNames [n])) = .ok c →
      p.lastPiece = q.lastPiece ∨ c.type.inFolder = false) {name : String}
    (h : ∃ relative ∈ yielded fs config p, ∃ c, r.classify fs (p.join relative) = .ok c ∧
      c.type.name = t ∧ c.fullName = name) :
    ∃ relative ∈ yielded fs config q, ∃ c, r.classify fs (q.join relative) = .ok c ∧
      c.type.name = t ∧ c.fullName = name := by
  obtain ⟨relative, hrelative, c, hc, rfl, rfl⟩ := h
  obtain ⟨ns, hne, rfl⟩ := Walk.ofNames_of_mem_yielded hrelative
  rw [← List.dropLast_concat_getLast hne] at hrelative hc
  obtain ⟨c', hc', hrenamed, hname⟩ := hfollows _ _ hrelative c hc
  refine ⟨_, hyielded ▸ hrelative, c', hc', by rw [hrenamed.type], (hname ?_).symm⟩
  by_cases hns : ns.dropLast = []
  · rw [hns] at hrelative hc
    exact Or.inr (hsame _ c hrelative hc)
  · exact Or.inl hns

/-- **Manifests below two spellings of one root** agree, but for the folders of what is in the root
itself. -/
theorem ofTree_respelled (r : Registry) (hcomponents : p.components = q.components)
    (hlengths : LengthsAgree fs config p q) : Respelled r fs config p q := by
  have hagree : Walk.Agree fs config p q := Walk.agree_of_components hcomponents hlengths.walk
  have hyielded := hagree.yielded_eq
  have hfollows : ∀ ns n, Path.ofNames (ns ++ [n]) ∈ yielded fs config p →
      Follows r fs p q ns n ∧ Follows r fs q p ns n := fun ns n hmem =>
    ⟨follows hcomponents (hlengths.file _ hmem) (hlengths.descriptor _ hmem),
      follows hcomponents.symm (hlengths.file _ hmem).symm (hlengths.descriptor _ hmem).symm⟩
  refine ⟨hagree, ?_, hfollows, fun hsame m => ?_⟩
  · rw [ok_iff_faultFree, ok_iff_faultFree, hagree.faultFree_iff]
  · rw [ofTree_eq_ok_iff, ofTree_eq_ok_iff, hagree.faultFree_iff]
    refine and_congr_right fun _ => forall₂_congr fun t name => iff_congr Iff.rfl ?_
    constructor
    · exact names_of_follows hyielded (fun ns n hmem => (hfollows ns n hmem).1)
        fun n c hmem hc => hsame.imp_right fun hunfiled => hunfiled n c hmem hc
    · refine names_of_follows hyielded.symm
        (fun ns n hmem => (hfollows ns n (hyielded ▸ hmem)).2) fun n c hmem hc => ?_
      refine hsame.imp Eq.symm fun hunfiled => ?_
      -- The type is that of the component which the file has below `p`.
      rw [← hyielded] at hmem
      obtain ⟨c', hc', hrenamed, -⟩ := (hfollows [] n hmem).2 c hc
      rw [hrenamed.type]
      exact hunfiled n c' hmem hc'

/-- Two spellings fit equally well if both leave room for the names below the root and the end of a
descriptor. -/
theorem lengthsAgree_of_reach (hfollow : config.followLinks = false)
    (hroot : p.tooLong = q.tooLong)
    (hroom : ∀ loc inner, fs.locate p = .ok loc → fs.node? loc = some (.directory inner) →
      p.bytes.length + inner.reach + 9 < Path.lengthLimit ∧
        q.bytes.length + inner.reach + 9 < Path.lengthLimit) :
    LengthsAgree fs config p q := by
  have hend : (Utf8.encodeChars Registry.descriptorEnd).length = 9 := by decide
  have hshort : ∀ relative ∈ yielded fs config p,
      (descriptorOf (p.join relative)).bytes.length < Path.lengthLimit ∧
        (descriptorOf (q.join relative)).bytes.length < Path.lengthLimit := by
    intro relative hrelative
    obtain ⟨loc, inner, ns, hlocate, hnode, hne, rfl, hspan⟩ :=
      Walk.span_le_reach_of_mem_yielded hfollow hrelative
    obtain ⟨hp, hq⟩ := hroom loc inner hlocate hnode
    have hlengthp := p.length_descend_le ns
    have hlengthq := q.length_descend_le ns
    rw [Path.join_ofNames p hne, Path.join_ofNames q hne, descriptorOf, descriptorOf,
      List.length_append, List.length_append, hend]
    omega
  refine ⟨Walk.lengthsAgree_of_reach hfollow hroot fun loc inner hlocate hnode => ?_, ?_, ?_⟩
  · obtain ⟨hp, hq⟩ := hroom loc inner hlocate hnode
    dsimp only
    omega
  · intro relative hrelative
    obtain ⟨hp, hq⟩ := hshort relative hrelative
    rw [descriptorOf, List.length_append] at hp hq
    exact Path.tooLong_eq_of_lt (by omega) (by omega)
  · intro relative hrelative
    exact Path.tooLong_eq_of_lt (hshort relative hrelative).1 (hshort relative hrelative).2

/-- A directory `li` with a directory `di`, in which is the descriptor of the report `ri`. -/
def cabinet : FileSystem where
  top := .directory ⟨[108, 105], by decide⟩
    (.directory ⟨[100, 105], by decide⟩
      (.file ⟨[114, 105, 46, 114, 101, 112, 111, 114, 116, 45, 109, 101, 116, 97, 46, 120, 109,
        108], by decide⟩ [1] .nil) .nil) .nil
  distinct := by decide
  current := []

/-- The report, by its full name. -/
def reportIn (root : Path) (fullName : String) : MetadataComponent where
  fullName := fullName
  type := Registry.folderType "Report" "reports" (some "report")
  xmlPath := root.join ⟨[114, 105, 46, 114, 101, 112, 111, 114, 116, 45, 109, 101, 116, 97, 46,
    120, 109, 108]⟩
  sources := []

/-- The manifest below `li/di`. -/
lemma ofTree_cabinet : ofTree Registry.bundled cabinet .standard ⟨[108, 105, 47, 100, 105]⟩ =
    .ok (empty.addComponent (reportIn ⟨[108, 105, 47, 100, 105]⟩ "di/ri")) := by
  have hwalk : walk cabinet .standard ⟨[108, 105, 47, 100, 105]⟩ =
      .ok [.file ⟨[114, 105, 46, 114, 101, 112, 111, 114, 116, 45, 109, 101, 116, 97, 46, 120, 109,
        108]⟩] := by cbv
  rw [ofTree, hwalk]
  rfl

/-- It is the same below `li//di`. -/
theorem ofTree_respelled_doubled :
    (⟨[108, 105, 47, 100, 105]⟩ : Path).components =
        (⟨[108, 105, 47, 47, 100, 105]⟩ : Path).components ∧
      LengthsAgree cabinet .standard ⟨[108, 105, 47, 100, 105]⟩ ⟨[108, 105, 47, 47, 100, 105]⟩ ∧
      ∃ m, ofTree Registry.bundled cabinet .standard ⟨[108, 105, 47, 47, 100, 105]⟩ = .ok m ∧
        m.members? "Report" = some ["di/ri"] := by
  have hcomponents : (⟨[108, 105, 47, 100, 105]⟩ : Path).components =
      (⟨[108, 105, 47, 47, 100, 105]⟩ : Path).components := by decide
  have hlengths : LengthsAgree cabinet .standard ⟨[108, 105, 47, 100, 105]⟩
      ⟨[108, 105, 47, 47, 100, 105]⟩ := by
    refine lengthsAgree_of_reach rfl rfl fun loc inner hlocate hnode => ?_
    obtain rfl : [⟨[108, 105], by decide⟩, ⟨[100, 105], by decide⟩] = loc := Except.ok.inj hlocate
    obtain rfl := Node.directory.inj (Option.some.inj hnode)
    decide
  have hrespelled := ofTree_respelled Registry.bundled hcomponents hlengths
  exact ⟨hcomponents, hlengths, _, (hrespelled.manifest (Or.inl (by decide)) _).1 ofTree_cabinet,
    by decide⟩

/-- Below `li/di/.` the folder of the report is `.`, and it is a different report. -/
theorem ofTree_spelled_with_dot :
    (⟨[108, 105, 47, 100, 105]⟩ : Path).components =
        (⟨[108, 105, 47, 100, 105, 47, 46]⟩ : Path).components ∧
      ∃ m m', ofTree Registry.bundled cabinet .standard ⟨[108, 105, 47, 100, 105]⟩ = .ok m ∧
        ofTree Registry.bundled cabinet .standard ⟨[108, 105, 47, 100, 105, 47, 46]⟩ = .ok m' ∧
        m.members? "Report" = some ["di/ri"] ∧ m'.members? "Report" = some ["./ri"] := by
  have hwalk : walk cabinet .standard ⟨[108, 105, 47, 100, 105, 47, 46]⟩ =
      .ok [.file ⟨[114, 105, 46, 114, 101, 112, 111, 114, 116, 45, 109, 101, 116, 97, 46, 120, 109,
        108]⟩] := by cbv
  have hm' : ofTree Registry.bundled cabinet .standard ⟨[108, 105, 47, 100, 105, 47, 46]⟩ =
      .ok (empty.addComponent (reportIn ⟨[108, 105, 47, 100, 105, 47, 46]⟩ "./ri")) := by
    rw [ofTree, hwalk]
    rfl
  exact ⟨by decide, _, _, ofTree_cabinet, hm', by decide, by decide⟩

end Manifest
end Reconcile
