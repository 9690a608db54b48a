import ScriptBundle.Proofs.Disk.Trees
import ScriptBundle.Proofs.Rewriting.Steps

/-! What resolution reads. It asks where paths lead, and of what files hold it reads the manifests; so
on disks with the same tree and the same manifests, resolution is the same, and so is all of rewriting. -/
namespace ScriptBundle

/-- Two disks with the same tree on which every manifest reads the same. -/
structure Disk.SameManifests (d d' : Disk) : Prop where
  tree : d.SameTree d'
  manifests : ∀ directory : Path, d'.readBytes (directory.join Resolution.manifestName) =
    d.readBytes (directory.join Resolution.manifestName)

theorem Disk.readText_congr {d d' : Disk} {p : Path} (same : d'.readBytes p = d.readBytes p) :
    d'.readText p = d.readText p := by
  rw [readText, readText, same]

namespace Resolution

variable {d d' : Disk}

theorem steps_manifest (directory : Path) :
    ∃ front, Disk.steps (directory.join manifestName) = front ++ [manifestName] := by
  have relative : (Path.mk manifestName).isAbsolute = false := by decide
  by_cases empty : directory.text = ""
  · refine ⟨[], ?_⟩
    rw [Path.join, relative, empty]
    decide
  · obtain ⟨front, steps, -⟩ := Disk.steps_lead empty manifestName
    refine ⟨front, ?_⟩
    rw [Path.join_eq, relative]
    exact steps

/-- Without links the manifests are the files that have their name. -/
theorem sameManifests_of_noLinks (tree : d.SameTree d')
    (noLinks : ∀ place target, d.entry? place ≠ some (.link target))
    (named : ∀ place, place.getLast? = some manifestName → d'.entry? place = d.entry? place) :
    d.SameManifests d' := by
  refine ⟨tree, fun directory => ?_⟩
  rw [Disk.readBytes, Disk.readBytes, tree.locate]
  cases located : d.locate (directory.join manifestName) with
  | error cause => rfl
  | ok place =>
    obtain ⟨front, asked⟩ := steps_manifest directory
    have last := Disk.getLast?_locate noLinks (by decide) asked located
    simp only [bind, Except.bind, named place last]

theorem loadFile_congr (same : d.SameTree d') (path : Path) : loadFile d' path = loadFile d path := by
  have files : d'.isFile = d.isFile := funext same.isFile
  rw [loadFile, loadFile, files]

theorem packageMain_congr (same : d.SameManifests d') (directory : Path) :
    packageMain d' directory = packageMain d directory := by
  have manifest := Disk.readText_congr (same.manifests directory)
  simp only [packageMain, manifest]

theorem loadDirectory_congr (same : d.SameManifests d') (path : Path) :
    loadDirectory d' path = loadDirectory d path := by
  have files : d'.isFile = d.isFile := funext same.tree.isFile
  simp only [loadDirectory, same.tree.isDirectory, packageMain_congr same, loadFile_congr same.tree,
    files]

theorem loadPath_congr (same : d.SameManifests d') (path : Path) :
    loadPath d' path = loadPath d path := by
  rw [loadPath, loadPath, loadFile_congr same.tree, loadDirectory_congr same]

theorem loadFirst_congr (same : d.SameManifests d') (paths : List Path) :
    loadFirst d' paths = loadFirst d paths := by
  induction paths with
  | nil => rfl
  | cons path rest ih => rw [loadFirst, loadFirst, loadPath_congr same, ih]

theorem locate_congr (same : d.SameManifests d') (directory : Path) (number : Nat)
    (attempts : List String) :
    locate d' directory number attempts = locate d directory number attempts := by
  induction attempts generalizing number with
  | nil => rfl
  | cons attempt rest ih => rw [locate, locate, loadFirst_congr same, ih]

theorem resolve_congr (same : d.SameManifests d') (specifier : String) (importer : Path) :
    resolve d' specifier importer = resolve d specifier importer := by
  simp only [resolve, locate_congr same, same.tree.canonicalize]

end Resolution

namespace Rewriting

variable {d d' : Disk}

theorem sideBySide_eq (same : d.SameManifests d') (importer : Path) :
    SideBySide d d' importer fun r r' => r' = r where
  pure _ := rfl
  bind first second := by
    obtain rfl := first
    rw [funext second]
  refuse _ := rfl
  resolve specifier := by rw [Resolution.resolve_congr same]
  report _ _ := rfl
  modify _ := rfl

theorem link_congr (same : d.SameManifests d') (importer : Path) (m : Script.Module) :
    link d' importer m = link d importer m :=
  (sideBySide_eq same importer).link m

end Rewriting

end ScriptBundle
