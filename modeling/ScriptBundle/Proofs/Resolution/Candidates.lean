import ScriptBundle.Resolution
import ScriptBundle.Proofs.Disk.Lookup
import ScriptBundle.Proofs.Log.Topics

/-! What a look-up finds when nothing is remembered: the first file among the candidates of all
attempts. It depends on the importing directory only through the directory's components, and the
identity it finds is that of a regular file. -/
namespace ScriptBundle.Resolution

/-- The main file that the manifest in a directory names. -/
def mainOf (disk : Disk) (directory : Path) : Option String :=
  match disk.readText (directory.join manifestName) with
  | .error _ => none
  | .ok text =>
    match Manifest.ofText text with
    | .ok manifest => manifest.main.filter (· ≠ "")
    | .error _ => none

/-- The files that a directory may stand for, in the order in which they are tried. -/
def filesIn (disk : Disk) (directory : Path) : List Path :=
  if disk.isDirectory directory then
    let index := directory.join scriptIndex
    match mainOf disk directory with
    | none => [index]
    | some main =>
      let entry := directory.join main
      [entry, entry.withSuffix ("." ++ scriptExtension), entry.join scriptIndex, index]
  else []

/-- The files that a path may stand for. -/
def filesFor (disk : Disk) (path : Path) : List Path :=
  [path, path.withSuffix ("." ++ scriptExtension)] ++ filesIn disk path

/-- The files that a specifier may stand for in a directory. -/
def candidates (disk : Disk) (directory : Path) (specifier : String) : List Path :=
  (attempts specifier).flatMap fun attempt => (bases directory attempt).flatMap (filesFor disk)

/-- The identity of the first candidate that is a file. -/
def find? (disk : Disk) (directory : Path) (specifier : String) : Option Identity :=
  (candidates disk directory specifier).findSome? disk.fileAt

section Searching

variable {topics : List String} (reports : "reqless::resolver" ∈ topics)
include reports

theorem yields_packageMain (disk : Disk) (directory : Path) :
    Yields topics (packageMain disk directory) (mainOf disk directory) := by
  simp only [packageMain, mainOf]
  cases disk.readText (directory.join manifestName) with
  | error cause => exact .pure _
  | ok text =>
    simp only
    cases Manifest.ofText text with
    | ok manifest => exact .pure _
    | error fault => exact .bind (.push reports) (.pure _)

theorem yields_loadDirectory (disk : Disk) (path : Path) :
    Yields topics (loadDirectory disk path) ((filesIn disk path).find? disk.isFile) := by
  simp only [loadDirectory, filesIn]
  cases disk.isDirectory path with
  | false => exact .pure _
  | true =>
    refine .bind (yields_packageMain reports disk path) ?_
    cases mainOf disk path with
    | none => exact .pure _
    | some main =>
      have split (entry index : Path) :
          (loadFile disk entry <|> [entry.join scriptIndex, index].find? disk.isFile) =
          [entry, entry.withSuffix ("." ++ scriptExtension), entry.join scriptIndex,
            index].find? disk.isFile := by
        change _ = ([entry, entry.withSuffix _] ++ [entry.join scriptIndex, index]).find? _
        rw [List.find?_append]
        unfold loadFile
        cases [entry, entry.withSuffix ("." ++ scriptExtension)].find? disk.isFile <;> rfl
      simp only [split, if_true]
      exact .pure _

theorem yields_loadPath (disk : Disk) (path : Path) :
    Yields topics (loadPath disk path) ((filesFor disk path).find? disk.isFile) := by
  have direct : [path, path.withSuffix ("." ++ scriptExtension)].find? disk.isFile =
      loadFile disk path := rfl
  rw [filesFor, List.find?_append, direct]
  unfold loadPath
  cases loadFile disk path with
  | some file => exact .pure _
  | none => simpa using yields_loadDirectory reports disk path

theorem yields_loadFirst (disk : Disk) (paths : List Path) :
    Yields topics (loadFirst disk paths) ((paths.flatMap (filesFor disk)).find? disk.isFile) := by
  induction paths with
  | nil => exact .pure _
  | cons path rest ih =>
    rw [List.flatMap_cons, List.find?_append]
    refine .bind (yields_loadPath reports disk path) ?_
    cases (filesFor disk path).find? disk.isFile with
    | some file => exact .pure _
    | none => simpa using ih

/-- A search goes through the attempts in order; their numbers are for reports only. -/
theorem yields_locate (disk : Disk) (directory : Path) (number : Nat) (tries : List String) :
    ∃ found, Yields topics (locate disk directory number tries) found ∧
      found.map Prod.fst = (tries.flatMap fun attempt =>
        (bases directory attempt).flatMap (filesFor disk)).find? disk.isFile := by
  induction tries generalizing number with
  | nil => exact ⟨none, .pure _, rfl⟩
  | cons attempt rest ih =>
    have first := yields_loadFirst reports disk (bases directory attempt)
    rw [List.flatMap_cons, List.find?_append]
    cases hit : ((bases directory attempt).flatMap (filesFor disk)).find? disk.isFile with
    | some file =>
      rw [hit] at first
      exact ⟨some (file, number), .bind first (.pure _), rfl⟩
    | none =>
      rw [hit] at first
      obtain ⟨found, later, same⟩ := ih (number + 1)
      exact ⟨found, .bind first (.bind (.push reports) later), by simpa using same⟩

end Searching

theorem findSome?_fileAt (disk : Disk) (paths : List Path) :
    paths.findSome? disk.fileAt = (paths.find? disk.isFile).bind disk.fileAt := by
  induction paths with
  | nil => rfl
  | cons path rest ih =>
    have known := disk.isSome_fileAt path
    cases file : disk.isFile path with
    | true => simp_all
    | false => simp_all

/-- An identity that is found is that of a regular file. -/
theorem hasFile_of_find? {disk : Disk} {directory : Path} {specifier : String}
    {identity : Identity} (found : find? disk directory specifier = some identity) :
    disk.HasFile identity := by
  obtain ⟨path, -, file⟩ := List.exists_of_findSome?_eq_some found
  exact Disk.hasFile_of_fileAt file

theorem bases_sameComponents {d e : Path} (same : d.components = e.components)
    (attempt : String) : List.Forall₂ Path.Alike (bases d attempt) (bases e attempt) := by
  unfold bases
  split
  · exact .cons (.join_same same attempt) .nil
  · refine List.rel_map ?_ (List.rel_filter ?_ (Path.ancestors_sameComponents same))
    · intro a b same
      exact (Path.Alike.join_same same packageDirectory).join attempt
    · intro a b same
      have name : a.fileName? = b.fileName? := by simp only [Path.fileName?, same]
      simp [name]

theorem mainOf_alike (disk : Disk) {p q : Path} (alike : Path.Alike p q) :
    mainOf disk p = mainOf disk q := by
  simp only [mainOf, disk.readText_alike (alike.join manifestName)]

theorem filesFor_alike (disk : Disk) {p q : Path} (alike : Path.Alike p q) :
    (filesFor disk p).map disk.fileAt = (filesFor disk q).map disk.fileAt := by
  have script {p q : Path} (alike : Path.Alike p q) :
      disk.fileAt (p.withSuffix ("." ++ scriptExtension)) =
        disk.fileAt (q.withSuffix ("." ++ scriptExtension)) :=
    disk.fileAt_alike (alike.withSuffix _)
  have index {p q : Path} (alike : Path.Alike p q) :
      disk.fileAt (p.join scriptIndex) = disk.fileAt (q.join scriptIndex) :=
    disk.fileAt_alike (alike.join _)
  simp only [filesFor, filesIn, disk.isDirectory_alike alike, mainOf_alike disk alike]
  split
  · split
    · simp [disk.fileAt_alike alike, script alike, index alike]
    · next main _ =>
      have entry := alike.join main
      simp [disk.fileAt_alike alike, disk.fileAt_alike entry, script alike, script entry,
        index alike, index entry]
  · simp [disk.fileAt_alike alike, script alike]

theorem flatMap_filesFor_alike (disk : Disk) {ps qs : List Path}
    (alike : List.Forall₂ Path.Alike ps qs) :
    (ps.flatMap (filesFor disk)).map disk.fileAt = (qs.flatMap (filesFor disk)).map disk.fileAt := by
  induction alike with
  | nil => rfl
  | cons first _ ih => simp only [List.flatMap_cons, List.map_append, filesFor_alike disk first, ih]

/-- Spellings of the importing directory do not matter: what is found is the same. -/
theorem find?_sameComponents (disk : Disk) {d e : Path} (same : d.components = e.components)
    (specifier : String) : find? disk d specifier = find? disk e specifier := by
  have attempt (a : String) := flatMap_filesFor_alike disk (bases_sameComponents same a)
  have all : (candidates disk d specifier).map disk.fileAt =
      (candidates disk e specifier).map disk.fileAt := by
    simp only [candidates, List.map_flatMap, attempt]
  have lookup (paths : List Path) :
      paths.findSome? disk.fileAt = (paths.map disk.fileAt).findSome? id := by
    rw [List.findSome?_map]
    rfl
  rw [find?, find?, lookup, lookup, all]

end ScriptBundle.Resolution
