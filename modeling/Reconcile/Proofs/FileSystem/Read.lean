import Reconcile.Proofs.FileSystem.Resolve

/-!
# Reading files

What a path is located at is a file or a directory, and of the two a file can be read
(`FileSystem.read_eq_ok_iff`).  So where no directory stands, to be located is to be readable.
-/

namespace Reconcile
namespace FileSystem

variable {fs : FileSystem} {p : Path} {loc : Location}

/-- A directory is what a path is located at. -/
lemma isDirectoryAt_iff :
    fs.isDirectoryAt p = true ↔
      ∃ loc inner, fs.locate p = .ok loc ∧ fs.node? loc = some (.directory inner) := by
  rw [isDirectoryAt]
  constructor
  · intro h
    cases hstat : fs.stat p with
    | error fault => simp [hstat, Except.toOption] at h
    | ok node =>
      obtain ⟨loc, hlocate, hnode⟩ := exists_of_stat hstat
      cases node with
      | directory inner => exact ⟨loc, inner, hlocate, hnode⟩
      | file content => simp [hstat, Except.toOption, Node.isDirectory] at h
      | link target => simp [hstat, Except.toOption, Node.isDirectory] at h
  · rintro ⟨loc, inner, hlocate, hnode⟩
    rw [stat_of_locate hlocate hnode]
    rfl

lemma streamAt_of_file {content : Bytes} (h : fs.node? loc = some (.file content)) :
    fs.streamAt loc = .ofBytes content := by
  rw [streamAt, h]

/-- A directory can be opened, but not read. -/
lemma streamAt_of_directory {inner : Listing} (h : fs.node? loc = some (.directory inner)) :
    fs.streamAt loc = ⟨[], [.failed .isDirectory]⟩ := by
  rw [streamAt, h]

/-- Only a file can be drained. -/
lemma drain_streamAt_eq_ok_iff {content : Bytes} :
    (fs.streamAt loc).drain = .ok content ↔ fs.node? loc = some (.file content) := by
  cases hnode : fs.node? loc with
  | none => simp [streamAt, hnode, Stream.drain, Stream.drain.go]
  | some node =>
    cases node with
    | file content' =>
      rw [streamAt_of_file hnode, Stream.drain_ofBytes, Except.ok.injEq, Option.some.injEq,
        Node.file.injEq]
    | directory inner => simp [streamAt, hnode, Stream.drain, Stream.drain.go]
    | link target => simp [streamAt, hnode, Stream.drain, Stream.drain.go]

/-- A path can be read where it reaches a file. -/
theorem read_eq_ok_iff {content : Bytes} :
    fs.read p = .ok content ↔
      ∃ loc, fs.locate p = .ok loc ∧ fs.node? loc = some (.file content) := by
  rw [read]
  cases hlocate : fs.locate p with
  | error fault => simp
  | ok loc => simp only [drain_streamAt_eq_ok_iff, Except.ok.injEq, exists_eq_left']

/-- What is located and no directory can be read. -/
lemma exists_read_of_locate (hlocate : fs.locate p = .ok loc) (h : fs.isDirectoryAt p = false) :
    ∃ content, fs.node? loc = some (.file content) ∧ fs.read p = .ok content := by
  obtain ⟨node, hnode, hlink⟩ := exists_node_of_locate hlocate
  cases node with
  | file content => exact ⟨content, hnode, read_eq_ok_iff.2 ⟨loc, hlocate, hnode⟩⟩
  | directory inner =>
    rw [isDirectoryAt_iff.2 ⟨loc, inner, hlocate, hnode⟩] at h
    cases h
  | link target => simp [Node.isLink] at hlink

/-- A regular file is what can be read. -/
lemma isFileAt_iff : fs.isFileAt p = true ↔ ∃ content, fs.read p = .ok content := by
  rw [isFileAt]
  constructor
  · intro h
    cases hstat : fs.stat p with
    | error fault => simp [hstat, Except.toOption] at h
    | ok node =>
      obtain ⟨loc, hlocate, hnode⟩ := exists_of_stat hstat
      cases node with
      | file content => exact ⟨content, read_eq_ok_iff.2 ⟨loc, hlocate, hnode⟩⟩
      | directory inner => simp [hstat, Except.toOption, Node.isFile] at h
      | link target => simp [hstat, Except.toOption, Node.isFile] at h
  · rintro ⟨content, hread⟩
    obtain ⟨loc, hlocate, hnode⟩ := read_eq_ok_iff.1 hread
    rw [stat_of_locate hlocate hnode]
    rfl

end FileSystem
end Reconcile
