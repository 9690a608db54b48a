import ScriptBundle.Proofs.Disk.Straight
import ScriptBundle.Proofs.Resolution.Memo

/-! The order of a search. All attempts, all places and all files that a place may stand for make one
list, written down without a look at what is a directory; a search finds the first regular file in
it. -/
namespace ScriptBundle.Resolution

/-- The files that a path may stand for: itself, then the main file of a manifest below it, then the
index below it. -/
def candidatesAt (disk : Disk) (p : Path) : List Path :=
  [p, p.withSuffix ".js"] ++
  (match mainOf disk p with
    | some main => [p.join main, (p.join main).withSuffix ".js", (p.join main).join "index.js"]
    | none => []) ++
  [p.join "index.js"]

/-- The files that a specifier may stand for, the first choice first. -/
def searchList (disk : Disk) (directory : Path) (specifier : String) : List Path :=
  [specifier, specifier ++ ".ts", specifier ++ "/index.ts"].flatMap fun attempt =>
    (bases directory attempt).flatMap (candidatesAt disk)

theorem mainOf_eq_none {disk : Disk} {p : Path} (filled : p.text ≠ "")
    (other : disk.isDirectory p = false) : mainOf disk p = none := by
  have piece : Disk.IsPiece manifestName := by decide
  cases located : disk.locate (p.join manifestName) with
  | error cause => simp [mainOf, Disk.readText, Disk.readBytes, located, bind, Except.bind]
  | ok place => simp [Disk.isDirectory_of_locate filled piece located] at other

theorem isFile_index {disk : Disk} {p : Path} (filled : p.text ≠ "")
    (other : disk.isDirectory p = false) : disk.isFile (p.join scriptIndex) = false := by
  have piece : Disk.IsPiece scriptIndex := by decide
  cases located : disk.locate (p.join scriptIndex) with
  | error cause => simp [Disk.isFile, located]
  | ok place => simp [Disk.isDirectory_of_locate filled piece located] at other

/-- Below what is no directory there is no file, so it makes no difference to look there, too. -/
theorem find?_candidatesAt {disk : Disk} {p : Path} (filled : p.text ≠ "") :
    (candidatesAt disk p).find? disk.isFile = (filesFor disk p).find? disk.isFile := by
  cases directory : disk.isDirectory p with
  | true =>
    simp only [candidatesAt, filesFor, filesIn, directory, if_true]
    cases mainOf disk p <;> rfl
  | false =>
    have index : disk.isFile (p.join "index.js") = false := isFile_index filled directory
    simp only [candidatesAt, filesFor, filesIn, directory, mainOf_eq_none filled directory,
      List.find?_append]
    simp [index, scriptExtension]

theorem text_join_ne_empty {base : Path} {written : String} (filled : base.text ≠ "") :
    (base.join written).text ≠ "" := by
  rw [Path.join_eq]
  split
  next absolute =>
    rintro rfl
    simp [Path.isAbsolute] at absolute
  next => simp [Path.lead_eq_empty_iff, filled]

/-- Every place of a search has a written path. -/
theorem text_ne_empty_of_mem_bases {directory place : Path} {attempt : String}
    (member : place ∈ bases directory attempt) : place.text ≠ "" := by
  unfold bases at member
  split at member
  next pathLike =>
    obtain rfl := List.mem_singleton.mp member
    have filled : attempt ≠ "" := by
      rintro rfl
      exact absurd pathLike (by decide)
    rw [Path.join_eq]
    split <;> simp [filled]
  next =>
    obtain ⟨above, -, rfl⟩ := List.mem_map.mp member
    refine text_join_ne_empty ?_
    rw [Path.join_eq, if_neg (by decide)]
    simp [packageDirectory]

theorem attempts_eq (specifier : String) :
    attempts specifier = [specifier, specifier ++ ".ts", specifier ++ "/index.ts"] := by
  have source : "." ++ sourceExtension = ".ts" := by decide
  have index : "/" ++ sourceIndex = "/index.ts" := by decide
  rw [attempts, String.append_assoc, String.append_assoc, source, index]

theorem find?_searchList (disk : Disk) (directory : Path) (specifier : String) :
    (searchList disk directory specifier).find? disk.isFile =
      (candidates disk directory specifier).find? disk.isFile := by
  have places (ps : List Path) (filled : ∀ p ∈ ps, p.text ≠ "") :
      (ps.flatMap (candidatesAt disk)).find? disk.isFile =
        (ps.flatMap (filesFor disk)).find? disk.isFile := by
    induction ps with
    | nil => rfl
    | cons p rest ih =>
      obtain ⟨first, others⟩ := List.forall_mem_cons.mp filled
      rw [List.flatMap_cons, List.flatMap_cons, List.find?_append, List.find?_append,
        find?_candidatesAt first, ih others]
  have attempt (a : String) := places (bases directory a) fun _ => text_ne_empty_of_mem_bases
  rw [searchList, candidates, attempts_eq, List.find?_flatMap, List.find?_flatMap]
  simp only [attempt]

theorem find?_eq_searchList (disk : Disk) (directory : Path) (specifier : String) :
    find? disk directory specifier =
      ((searchList disk directory specifier).find? disk.isFile).bind disk.fileAt := by
  rw [find?, findSome?_fileAt, find?_searchList]

/-- What the file that decides makes of a search. -/
theorem answer_eq_ok_iff {disk : Disk} {specifier : String} {importer : Path} {identity : Identity} :
    answer disk specifier importer = .ok identity ↔
      ∃ file, (searchList disk (directoryOf importer) specifier).find? disk.isFile = some file ∧
        disk.canonicalize file = .ok identity := by
  rw [answer, find?_eq_searchList]
  cases first : (searchList disk (directoryOf importer) specifier).find? disk.isFile with
  | none => simp
  | some file =>
    obtain ⟨found, known⟩ := Option.isSome_iff_exists.mp
      ((disk.isSome_fileAt file).trans (List.find?_some first))
    obtain ⟨-, canonical⟩ := (disk.fileAt_eq_some_iff file found).mp known
    simp [known, canonical]

theorem answer_eq_error_iff {disk : Disk} {specifier : String} {importer : Path} {e : BundleError} :
    answer disk specifier importer = .error e ↔ e = .resolution specifier importer ∧
      (searchList disk (directoryOf importer) specifier).find? disk.isFile = none := by
  rw [answer, find?_eq_searchList]
  cases first : (searchList disk (directoryOf importer) specifier).find? disk.isFile with
  | none => simp [eq_comm]
  | some file =>
    obtain ⟨found, known⟩ := Option.isSome_iff_exists.mp
      ((disk.isSome_fileAt file).trans (List.find?_some first))
    simp [known]

/-- What a search for a specifier gives when nothing is remembered. -/
theorem resolve_fresh (disk : Disk) (specifier : String) (importer : Path) (log : Log) :
    ((resolve disk specifier importer).runFrom { log }).1 = answer disk specifier importer := by
  have unknown : ({ log } : Session).memo.get? (directoryOf importer) specifier = none := rfl
  obtain ⟨log', run, -⟩ := resolve_searched disk unknown
  rw [run]

/-- A specifier that is not remembered refers to the first regular file of its search list, whatever
else would be found behind it, and only if there is none it fails, always for that reason. -/
theorem resolve_first (disk : Disk) (specifier : String) (importer : Path) (log : Log) :
    let result := ((resolve disk specifier importer).runFrom { log }).1
    let list := searchList disk (directoryOf importer) specifier
    (∀ identity, result = .ok identity ↔ ∃ before file after, list = before ++ file :: after ∧
      (∀ p ∈ before, disk.isFile p = false) ∧ disk.isFile file = true ∧
      disk.canonicalize file = .ok identity) ∧
    ∀ e, result = .error e ↔
      e = .resolution specifier importer ∧ ∀ p ∈ list, disk.isFile p = false := by
  intro result list
  have answered : result = answer disk specifier importer := resolve_fresh disk specifier importer log
  rw [answered]
  constructor
  · intro identity
    rw [answer_eq_ok_iff]
    constructor
    · rintro ⟨file, first, canonical⟩
      obtain ⟨isFile, before, after, whole, passed⟩ := List.find?_eq_some_iff_append.mp first
      exact ⟨before, file, after, whole, by simpa using passed, isFile, canonical⟩
    · rintro ⟨before, file, after, whole, passed, isFile, canonical⟩
      exact ⟨file, List.find?_eq_some_iff_append.mpr
        ⟨isFile, before, after, whole, by simpa using passed⟩, canonical⟩
  · intro e
    rw [answer_eq_error_iff, List.find?_eq_none]
    simp only [Bool.not_eq_true]
    rfl

end ScriptBundle.Resolution
