import ScriptBundle.Proofs.Disk.Straight
import ScriptBundle.Proofs.Resolution.Memo

/-! Identities again. A search ends with the canonical path of a regular file; that path leads straight
down to the file, so it is an identity of one file only, and as a specifier it is its own answer. -/
namespace ScriptBundle

namespace Disk

variable {d : Disk}

/-- Whether an identity is the canonical path that leads straight down to a regular file. -/
structure Denotes (d : Disk) (identity : Identity) (place : Place) : Prop where
  path : identity = canonical place
  proper : IsProper place
  straight : d.IsStraight place
  file : ∃ content, d.entry? place = some (.file content)

theorem IsSound.denotes (sound : d.IsSound) {p : Path} {identity : Identity}
    (found : d.fileAt p = some identity) :
    ∃ place, d.locate p = .ok place ∧ d.Denotes identity place := by
  obtain ⟨file, path⟩ := (d.fileAt_eq_some_iff p identity).mp found
  obtain ⟨place, content, located, entry⟩ := (d.isFile_iff p).mp file
  obtain ⟨proper, straight⟩ := sound.locate located
  rw [canonicalize, located] at path
  exact ⟨place, located, (Except.ok.inj path).symm, proper, straight, content, entry⟩

namespace Denotes

variable {identity other : Identity} {place : Place}

theorem locate (denotes : d.Denotes identity place) (sound : d.IsSound) :
    d.locate identity = .ok place := by
  obtain ⟨content, file⟩ := denotes.file
  rw [denotes.path]
  exact sound.locate_canonical denotes.proper denotes.straight file

/-- An identity is the identity of the file that it denotes. -/
theorem fileAt (denotes : d.Denotes identity place) (sound : d.IsSound) :
    d.fileAt identity = some identity := by
  have located := denotes.locate sound
  obtain ⟨content, file⟩ := denotes.file
  refine (d.fileAt_eq_some_iff identity identity).mpr ⟨?_, ?_⟩
  · exact (d.isFile_iff identity).mpr ⟨place, content, located, file⟩
  · rw [canonicalize, located]
    exact congrArg Except.ok denotes.path.symm

theorem isAbsolute (denotes : d.Denotes identity place) : identity.isAbsolute = true := by
  obtain ⟨content, file⟩ := denotes.file
  rw [denotes.path]
  exact (pieces_canonical denotes.proper (ne_nil_of_file file)).1

theorem components (denotes : d.Denotes identity place) :
    identity.components = .root :: place.map .name := by
  rw [denotes.path]
  exact components_canonical denotes.proper

/-- There is no link on the way to the file, and the file is none. -/
theorem entry?_ne_link (denotes : d.Denotes identity place) {above : Place} (front : above <+: place)
    (target : String) : d.entry? above ≠ some (.link target) := by
  by_cases last : above = place
  · obtain ⟨content, file⟩ := denotes.file
    simp [last, file]
  · simp [denotes.straight above front last]

theorem eq_iff (denotes : d.Denotes identity place) (sound : d.IsSound) {place' : Place}
    (denotes' : d.Denotes other place') : place = place' ↔ identity = other := by
  refine ⟨fun same => ?_, fun same => ?_⟩
  · rw [denotes.path, denotes'.path, same]
  · have located := denotes.locate sound
    rw [same, denotes'.locate sound] at located
    exact (Except.ok.inj located).symm

end Denotes

end Disk

namespace Resolution

variable {disk : Disk}

theorem answer_eq_ok {specifier : String} {importer : Path} {identity : Identity} :
    answer disk specifier importer = .ok identity ↔
      find? disk (directoryOf importer) specifier = some identity := by
  unfold answer
  split <;> simp_all

/-- Whatever a search gives as an identity denotes a file. -/
theorem denotes_of_answer (sound : disk.IsSound) {specifier : String} {importer : Path}
    {identity : Identity} (found : answer disk specifier importer = .ok identity) :
    ∃ place, disk.Denotes identity place := by
  obtain ⟨p, -, file⟩ := List.exists_of_findSome?_eq_some (answer_eq_ok.mp found)
  obtain ⟨place, -, denotes⟩ := sound.denotes file
  exact ⟨place, denotes⟩

/-- An absolute path is looked up where it leads, before anything else and from everywhere. -/
theorem find?_absolute {p : Path} (absolute : p.isAbsolute = true) {identity : Identity}
    (file : disk.fileAt p = some identity) (directory : Path) :
    find? disk directory p.text = some identity := by
  have pathLike : isPathLike p.text = true := by simp [isPathLike, absolute]
  have place : bases directory p.text = [p] := by
    rw [bases, if_pos pathLike, Path.join_eq, if_pos absolute]
  obtain ⟨rest, first⟩ : ∃ rest, candidates disk directory p.text = p :: rest := by
    simp only [candidates, attempts, List.flatMap_cons, place, filesFor, List.cons_append]
    exact ⟨_, rfl⟩
  rw [find?, first, List.findSome?_cons, file]

/-- An identity is its own answer, whoever asks. -/
theorem answer_identity (sound : disk.IsSound) {identity : Identity} {place : Place}
    (denotes : disk.Denotes identity place) (importer : Path) :
    answer disk identity.text importer = .ok identity :=
  answer_eq_ok.mpr (find?_absolute denotes.isAbsolute (denotes.fileAt sound) _)

end Resolution

end ScriptBundle
