import ScriptBundle.Failure
import ScriptBundle.Log
import ScriptBundle.Manifest
import ScriptBundle.Text.Quoted

/-! From a specifier, as a module writes it, to the identity of the module it means. Three attempts
are made: the specifier itself, with the source extension, and as a directory with an index. A
path-like attempt is looked up from the importing directory, any other one in the package
directories above it. What was found once for a directory and a specifier is remembered. -/
namespace ScriptBundle

namespace Resolution

def sourceExtension : String := "ts"

def sourceIndex : String := "index.ts"

def scriptExtension : String := "js"

def scriptIndex : String := "index.js"

/-- The name of the directories that hold packages. -/
def packageDirectory : String := "node_modules"

def manifestName : String := "package.json"

/-- Whether a specifier says itself where to look. -/
def isPathLike (specifier : String) : Bool :=
  specifier = "." || specifier = ".." || "./".isPrefixOf specifier || "../".isPrefixOf specifier ||
    (Path.mk specifier).isAbsolute

/-- The attempts for a specifier, in order. -/
def attempts (specifier : String) : List String :=
  [specifier, specifier ++ "." ++ sourceExtension, specifier ++ "/" ++ sourceIndex]

/-- The places where an attempt is looked up, nearest first. -/
def bases (directory : Path) (attempt : String) : List Path :=
  if isPathLike attempt then [directory.join attempt]
  else
    (directory.ancestors.filter (·.fileName? ≠ some packageDirectory)).map fun above =>
      (above.join packageDirectory).join attempt

/-- The file at a path, or at the path with the script extension. -/
def loadFile (disk : Disk) (path : Path) : Option Path :=
  [path, path.withSuffix ("." ++ scriptExtension)].find? disk.isFile

def report (level : Level) (text : String) : Report := ⟨level, "reqless::resolver", text⟩

/-- The main file that the manifest in a directory names. -/
def packageMain (disk : Disk) (directory : Path) : StateM Log (Option String) := do
  let file := directory.join manifestName
  match disk.readText file with
  | .error _ => return none
  | .ok text =>
    match Manifest.ofText text with
    | .ok manifest => return manifest.main.filter (· ≠ "")
    | .error fault =>
      modify (·.push (report .debug
        ("Ignoring unreadable " ++ file.quoted ++ ": " ++ fault.message text.toList)))
      return none

/-- The file that a directory stands for: its manifest's main file, or its index. -/
def loadDirectory (disk : Disk) (path : Path) : StateM Log (Option Path) := do
  if !disk.isDirectory path then return none
  let index := path.join scriptIndex
  match ← packageMain disk path with
  | none => return [index].find? disk.isFile
  | some main =>
    let entry := path.join main
    return loadFile disk entry <|> [entry.join scriptIndex, index].find? disk.isFile

/-- The file that a path stands for. -/
def loadPath (disk : Disk) (path : Path) : StateM Log (Option Path) := do
  match loadFile disk path with
  | some file => return some file
  | none => loadDirectory disk path

/-- The file that the first of some paths stands for. -/
def loadFirst (disk : Disk) : List Path → StateM Log (Option Path)
  | [] => return none
  | path :: rest => do
    match ← loadPath disk path with
    | some file => return some file
    | none => loadFirst disk rest

/-- The first attempt that finds a file, with its number. -/
def locate (disk : Disk) (directory : Path) : Nat → List String →
    StateM Log (Option (Path × Nat))
  | _, [] => return none
  | number, attempt :: rest => do
    match ← loadFirst disk (bases directory attempt) with
    | some file => return some (file, number)
    | none =>
      modify (·.push (report .trace
        ("No module for '" ++ attempt ++ "' from " ++ directory.quoted)))
      locate disk directory (number + 1) rest

end Resolution

/-- What has been found so far: importing directories, compared by components, and specifiers with
their identities. -/
structure Memo where
  found : List ((List Path.Component × String) × Identity)
  deriving Inhabited

namespace Memo

def empty : Memo := ⟨[]⟩

def get? (memo : Memo) (directory : Path) (specifier : String) : Option Identity :=
  memo.found.lookup (directory.components, specifier)

def insert (memo : Memo) (directory : Path) (specifier : String) (identity : Identity) : Memo :=
  ⟨((directory.components, specifier), identity) :: memo.found⟩

end Memo

/-- What a run carries along: what was found, and what was reported. -/
structure Session where
  memo : Memo := .empty
  log : Log := .empty
  deriving Inhabited

/-- A step of making a bundle. -/
abbrev Work := ExceptT BundleError (StateM Session)

namespace Session

def push (s : Session) (report : Report) : Session := { s with log := s.log.push report }

end Session

/-- Runs a step that only reports. -/
def Work.ofLog {α : Type} (step : StateM Log α) : Work α := do
  let (a, log) := step.run (← get).log
  modify fun s => { s with log }
  return a

namespace Resolution

/-- The directory that relative specifiers of an importer start from. -/
def directoryOf (importer : Path) : Path := importer.parent?.getD ⟨"."⟩

/-- The identity that a specifier has in an importing module. -/
def resolve (disk : Disk) (specifier : String) (importer : Path) : Work Identity := do
  let directory := directoryOf importer
  match (← get).memo.get? directory specifier with
  | some identity =>
    modify (·.push (report .trace
      ("Resolver cache hit: " ++ specifier ++ " -> " ++ identity.quoted)))
    return identity
  | none =>
    match ← Work.ofLog (locate disk directory 1 (attempts specifier)) with
    | none => throw (.resolution specifier importer)
    | some (file, number) =>
      match disk.canonicalize file with
      | .error cause => throw (.io file cause)
      | .ok identity =>
        modify (·.push (report .debug
          ("Resolved '" ++ specifier ++ "' from " ++ importer.quoted ++ " to " ++
            identity.quoted ++ " (attempt " ++ toString number ++ ")")))
        modify fun s => { s with memo := s.memo.insert directory specifier identity }
        return identity

end Resolution

end ScriptBundle
