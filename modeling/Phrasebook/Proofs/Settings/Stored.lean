import Phrasebook.Proofs.Disk.Lexical
import Phrasebook.Proofs.Settings.Rereading
import Phrasebook.Proofs.Text.Utf8

/-! # Settings on the disk

Which settings a directory has depends on nothing but the bytes that can be read at the settings
path. Saved settings are the ones that are loaded afterwards, and replacing a file at another place
leaves them as they are.
-/

namespace Phrasebook.Settings

variable {disk one other : Disk} {directory : Disk.Path}

/-- The settings in the bytes of a file, or the defaults. -/
def ofBytes (content : Disk.Bytes) : Settings :=
  ((Text.decodeUtf8? content).bind fun text => (parse text).toOption).getD {}

theorem ofBytes_document (settings : Settings) :
    ofBytes (Text.encodeUtf8 settings.document.indented.toList) = settings := by
  rw [ofBytes, Text.decodeUtf8?_encodeUtf8, String.ofList_toList, Option.bind_some, parse_document]
  rfl

theorem loadOrDefault_of_read {content : Disk.Bytes}
    (read : disk.read (path directory) = .ok content) :
    (loadOrDefault disk directory).value = ofBytes content := by
  obtain ⟨location, resolved, -⟩ := Disk.read_eq_ok_iff.mp read
  have present : disk.exists? (path directory) = true := by
    rw [Disk.exists?, resolved]
    rfl
  unfold loadOrDefault load ofBytes
  simp only [present, Bool.not_true, Bool.false_eq_true, if_false, Disk.readText, read, bind,
    Except.bind]
  cases Text.decodeUtf8? content with
  | none => rfl
  | some text =>
      simp only [Option.bind_some]
      cases parse text <;> rfl

theorem loadOrDefault_of_unread (unread : ∀ content, disk.read (path directory) ≠ .ok content) :
    (loadOrDefault disk directory).value = {} := by
  unfold loadOrDefault load
  by_cases present : disk.exists? (path directory) = true
  · simp only [present, Bool.not_true, Bool.false_eq_true, if_false, Disk.readText, bind,
      Except.bind]
    cases read : disk.read (path directory) with
    | error fault => rfl
    | ok content => exact absurd read (unread content)
  · simp [present]

/-- The same bytes hold the same settings. -/
theorem loadOrDefault_congr
    (same : ∀ content, other.read (path directory) = .ok content ↔
      one.read (path directory) = .ok content) :
    (loadOrDefault other directory).value = (loadOrDefault one directory).value := by
  cases read : one.read (path directory) with
  | ok content =>
      rw [loadOrDefault_of_read read, loadOrDefault_of_read ((same content).mpr read)]
  | error fault =>
      have unread : ∀ content, one.read (path directory) ≠ .ok content := by simp [read]
      rw [loadOrDefault_of_unread unread,
        loadOrDefault_of_unread fun content => mt (same content).mp (unread content)]

/-- The settings of a directory are the given ones, and its settings path reaches the file that lies
    where the path leads. -/
structure Stored (disk : Disk) (directory : Disk.Path) (settings : Settings) : Prop where
  reaches : disk.Reaches (path directory)
  loaded : (loadOrDefault disk directory).value = settings

/-- Where the directory is, its settings are reached. -/
theorem reaches_of_isDirectory (there : disk.isDirectory directory = true) :
    disk.Reaches (path directory) :=
  Disk.reaches_join Disk.isName_settings (by decide) there

/-- Settings are reached by a path that never goes up, whether or not the directory is there. -/
theorem reaches_of_level (tree : disk.IsTree) (level : .up ∉ directory.steps) :
    disk.Reaches (path directory) :=
  tree.reaches Disk.isName_settings level

/-- Settings that were saved are stored. -/
theorem stored_save {settings : Settings} (saved : (save disk directory settings).failure = none) :
    Stored (save disk directory settings).disk directory settings := by
  have read := Disk.read_replace_of_done saved
  obtain ⟨location, resolved, -⟩ := Disk.read_eq_ok_iff.mp read
  refine ⟨Disk.reaches_of_resolve resolved, ?_⟩
  rw [save, loadOrDefault_of_read read, ofBytes_document]

/-- Replacing another file keeps the settings. -/
theorem Stored.replace {settings : Settings} {file : Disk.Path} {content : Disk.Bytes}
    (stored : Stored disk directory settings)
    (apart : (disk.replace file content).disk.resolve file ≠
      .ok ((disk.replace file content).disk.locationOf (path directory))) :
    Stored (disk.replace file content).disk directory settings := by
  have keeps := Disk.keeps_replace disk file content
  obtain ⟨place, named⟩ := Disk.locationOf_of_last disk
    (Disk.last_steps_settings directory)
  rw [keeps.locationOf] at apart
  have lasting (above : Disk.Location) : disk.locationOf (path directory) ≠
      above ++ [file.fileName?.getD "dictionary" ++ ".tmp"] := by
    intro same
    exact Disk.ne_append_temporary (by decide) (Disk.last_name_eq (named.symm.trans same))
  have same (old : Disk.Bytes) := Disk.file_replace_iff old apart lasting
  have reaches := stored.reaches.kept keeps same
  refine ⟨reaches, (loadOrDefault_congr fun old => ?_).trans stored.loaded⟩
  rw [reaches.read_iff, stored.reaches.read_iff, keeps.locationOf, same]

end Phrasebook.Settings
