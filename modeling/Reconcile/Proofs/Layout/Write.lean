import Reconcile.Layout
import Reconcile.Proofs.FileSystem.Make

/-!
# The manifest in the scratch directory

A manifest is stored by making the scratch directory and writing one file in it.  So either some
directories are made and nothing else happens, or the file that the path of the manifest reaches in
the end holds the new bytes, through whatever links it is reached (`Layout.Stores`).  No other file
is touched.  A manifest that is copied has been read before anything is made, so it may be that
very file (`Layout.manifest_stored`).
-/

namespace Reconcile
namespace Layout

open FileSystem (Deepens Stored)

/-- The name `.sfdx` of the settings of a project. -/
def settingsName : Name := ⟨[46, 115, 102, 100, 120], by decide⟩

/-- The name `tools`, which stands below the settings. -/
def toolsName : Name := ⟨[116, 111, 111, 108, 115], by decide⟩

/-- The name `conflicts` of the scratch directory itself. -/
def conflictsName : Name := ⟨[99, 111, 110, 102, 108, 105, 99, 116, 115], by decide⟩

/-- The name of the manifest. -/
def packageName : Name := ⟨[112, 97, 99, 107, 97, 103, 101, 46, 120, 109, 108], by decide⟩

/-- The directory around the scratch directory. -/
def tools (l : Layout) : Path := (l.projectRoot.child settingsName).child toolsName

variable {l : Layout} {fs fs' : FileSystem} {content : Bytes} {outcome : Except DiffError Path}

lemma scratch_eq_child (l : Layout) : l.scratch = l.tools.child conflictsName := by
  have hsettings : Path.ofString ".sfdx" = ⟨settingsName.bytes⟩ := by decide
  have htools : Path.ofString "tools" = ⟨toolsName.bytes⟩ := by decide
  have hconflicts : Path.ofString "conflicts" = ⟨conflictsName.bytes⟩ := by decide
  rw [scratch, hsettings, htools, hconflicts]
  rfl

lemma packageXml_eq_child (l : Layout) : l.packageXml = l.scratch.child packageName := by
  have hname : Path.ofString "package.xml" = ⟨packageName.bytes⟩ := by decide
  rw [packageXml, hname]
  rfl

lemma tools_ne_nil (l : Layout) : l.tools.bytes ≠ [] := Path.child_ne_nil _ toolsName

/-- The scratch directory is not at the top of everything. -/
lemma parent?_scratch (l : Layout) : l.scratch.parent? ≠ none := by
  rw [scratch_eq_child, Path.parent?_child (tools_ne_nil l)]
  exact nofun

/-! ## Storing -/

/-- How it can end to store a manifest with these bytes. -/
inductive Stores (l : Layout) (fs : FileSystem) (content : Bytes) :
    Except DiffError Path → FileSystem → Prop where
  /-- Nothing has been done but to make directories. -/
  | failed {e : DiffError} {fs' : FileSystem} :
      fs.Deepens fs' l.scratch.ancestors → Stores l fs content (.error e) fs'
  /-- The scratch directory has been made, and the manifest is the only other thing that has
  changed. -/
  | stored {fs₁ fs' : FileSystem} {loc : Location} :
      (FileSystem.makeDirectories l.scratch).on fs = (.ok (), fs₁) →
      Stored fs₁ fs' loc content → fs'.locate l.packageXml = .ok loc →
      Stores l fs content (.ok l.packageXml) fs'

/-- There is no other way for it to end. -/
theorem stores_of_storePackage (h : (l.storePackage content).on fs = (outcome, fs')) :
    Stores l fs content outcome fs' := by
  rw [storePackage] at h
  rcases hmake : (FileSystem.makeDirectories l.scratch).on fs with ⟨fault | _, fs₁⟩
  · rw [Effect.on_bind_error (Effect.on_blame_error hmake)] at h
    cases h
    exact .failed (FileSystem.deepens_of_ensureDirectories hmake)
  rw [Effect.on_bind_ok (Effect.on_blame_ok hmake)] at h
  cases hcreate : FileSystem.create l.packageXml fs₁ with
  | error fault =>
    have hwrite : (FileSystem.write l.packageXml content).on fs₁ = (.error fault, fs₁) :=
      Effect.on_bind_error (Effect.on_attempt_error hcreate)
    rw [Effect.on_bind_error (Effect.on_blame_error hwrite)] at h
    cases h
    exact .failed (FileSystem.deepens_of_ensureDirectories hmake)
  | ok made =>
    obtain ⟨loc, fs₂⟩ := made
    have hwrite : (FileSystem.write l.packageXml content).on fs₁ =
        (.ok (), fs₂.storeAt loc content) :=
      Effect.on_bind_ok (Effect.on_attempt_ok hcreate)
    rw [Effect.on_bind_ok (Effect.on_blame_ok hwrite)] at h
    cases h
    obtain ⟨hempty, hlocate⟩ := FileSystem.stored_of_create hcreate
    have hfull := FileSystem.stored_storeAt hempty.file content
    exact .stored hmake (hempty.trans hfull) (hfull.extended.locate hlocate)

namespace Stores

/-- What has been stored can be read. -/
lemma read (h : Stores l fs content outcome fs') {p : Path} (hp : outcome = .ok p) :
    p = l.packageXml ∧ fs'.read p = .ok content := by
  cases h with
  | failed hdeepens => cases hp
  | stored hmake hstored hlocate =>
    cases hp
    exact ⟨rfl, FileSystem.read_eq_ok_iff_shape.2 ⟨_, hlocate, hstored.file⟩⟩

end Stores

/-- Every file but the one that is reached at the path of the manifest holds what it did. -/
def KeepsFiles (l : Layout) (fs fs' : FileSystem) : Prop :=
  ∀ loc old, fs.node? loc = some (.file old) → fs'.locate l.packageXml ≠ .ok loc →
    fs'.node? loc = some (.file old)

lemma Stores.keepsFiles (h : Stores l fs content outcome fs') : l.KeepsFiles fs fs' := by
  intro loc old hold hne
  rw [FileSystem.node?, ← Listing.shape_eq_file_iff] at hold ⊢
  cases h with
  | failed hdeepens => exact hdeepens.kept hold
  | stored hmake hstored hlocate =>
    have hother : loc ≠ _ := fun heq => hne (heq ▸ hlocate)
    rw [← FileSystem.shape, hstored.other hother]
    exact (FileSystem.deepens_of_ensureDirectories hmake).kept hold

/-! ## Copying -/

/-- Nothing is done if the manifest cannot be read. -/
lemma copyManifest_of_read_error {file : Path} {fault : Fault}
    (h : fs.read file = .error fault) :
    (l.copyManifest file).on fs = (.error (.read file fault), fs) := by
  rw [copyManifest]
  refine Effect.on_bind_error ?_
  rw [Effect.on_ask, h]
  rfl

/-- What is stored is what the manifest held in the beginning. -/
lemma copyManifest_of_read {file : Path} (h : fs.read file = .ok content) :
    (l.copyManifest file).on fs = (l.storePackage content).on fs := by
  rw [copyManifest]
  refine Effect.on_bind_ok ?_
  rw [Effect.on_ask, h]
  rfl

/-- **The manifest is stored, and nothing else.**  What is read at its path afterwards are the bytes
of the manifest, or those that the copied file held before, even if the path leads to that file. -/
theorem manifest_stored (l : Layout) (fs : FileSystem) :
    (∀ m version outcome fs', (l.writeManifest m version).on fs = (outcome, fs') →
      l.KeepsFiles fs fs' ∧
        ∀ p, outcome = .ok p → p = l.packageXml ∧
          fs'.read p =
            .ok (Utf8.encode (Package.render (if m.isEmpty then .default else m) version))) ∧
    ∀ file outcome fs', (l.copyManifest file).on fs = (outcome, fs') →
      l.KeepsFiles fs fs' ∧
        (∀ p, outcome = .ok p → p = l.packageXml ∧
          ∃ content, fs.read file = .ok content ∧ fs'.read p = .ok content) ∧
        ∀ fault, fs.read file = .error fault → outcome = .error (.read file fault) ∧ fs' = fs := by
  constructor
  · intro m version outcome fs' h
    have hstores := stores_of_storePackage h
    exact ⟨hstores.keepsFiles, fun p hp => hstores.read hp⟩
  · intro file outcome fs' h
    cases hread : fs.read file with
    | error fault =>
      rw [copyManifest_of_read_error hread] at h
      cases h
      refine ⟨fun loc old hold _ => hold, nofun, ?_⟩
      intro fault' hfault
      cases hfault
      exact ⟨rfl, rfl⟩
    | ok content =>
      rw [copyManifest_of_read hread] at h
      have hstores := stores_of_storePackage h
      refine ⟨hstores.keepsFiles, ?_, nofun⟩
      intro p hp
      obtain ⟨rfl, hcontent⟩ := hstores.read hp
      exact ⟨rfl, content, rfl, hcontent⟩

/-- The project `pg`, with a manifest in its scratch directory to which there is a link `kg`. -/
def aliased : FileSystem where
  top := .directory ⟨[112, 103], by decide⟩
    (.directory settingsName
      (.directory toolsName
        (.directory conflictsName (.file packageName [49] .nil) .nil) .nil) .nil)
    (.link ⟨[107, 103], by decide⟩
      ⟨[112, 103, 47, 46, 115, 102, 100, 120, 47, 116, 111, 111, 108, 115, 47, 99, 111, 110, 102,
        108, 105, 99, 116, 115, 47, 112, 97, 99, 107, 97, 103, 101, 46, 120, 109, 108]⟩ .nil)
  distinct := by decide
  current := []

/-- The project at `pg`, where the local sources stand right below the root. -/
def linkedProject : Layout := ⟨⟨[112, 103]⟩, ⟨[]⟩⟩

/-- The manifest is copied onto itself. -/
theorem manifest_stored_aliased :
    aliased.read linkedProject.packageXml = .ok [49] ∧
      ∃ fs', (linkedProject.copyManifest ⟨[107, 103]⟩).on aliased =
          (.ok linkedProject.packageXml, fs') ∧
        fs'.read linkedProject.packageXml = .ok [49] := by
  have hok : ((linkedProject.copyManifest ⟨[107, 103]⟩).on aliased).1 =
      .ok linkedProject.packageXml := by decide
  have hread : aliased.read ⟨[107, 103]⟩ = .ok [49] := by decide
  obtain ⟨-, hstored, -⟩ := (manifest_stored linkedProject aliased).2 ⟨[107, 103]⟩ _ _ rfl
  obtain ⟨-, content, hcontent, hafter⟩ := hstored _ hok
  rw [hread] at hcontent
  cases hcontent
  exact ⟨by decide, _, Prod.ext hok rfl, hafter⟩

end Layout
end Reconcile
