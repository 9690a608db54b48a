import ScriptBundle.CommandLine

/-! The program. It reads the working directory, the package directories above it and the files of
settings into a disk, runs, and writes back what the run changed. -/
namespace ScriptBundle.Surroundings

/-- The place of an absolute path. -/
def placeOf (path : String) : Place := (Path.mk path).pieces.filter (· ≠ "")

/-- The directories on the way down to a place, itself included. -/
def wayTo (place : Place) : List (Place × Entry) :=
  (List.range place.length).map fun depth => (place.take (depth + 1), .directory)

/-- What an entry of a directory holds. Links are read as links to where they lead in the end. -/
partial def read (place : Place) (found : IO.FS.DirEntry) : IO (List (Place × Entry)) := do
  match (← found.path.symlinkMetadata).type with
  | .symlink =>
    try
      return [(place, .link (← IO.FS.realPath found.path).toString)]
    catch _ => return []
  | .dir =>
    let inner ← (← found.path.readDir).toList.mapM fun e => read (place ++ [e.fileName]) e
    return (place, .directory) :: inner.flatten
  | .file => return [(place, .file (← IO.FS.readBinFile found.path))]
  | .other => return []

/-- What an absolute path leads to, and the way to it; nothing if it does not exist. -/
def readPath (path : Path) : IO (List (Place × Entry)) := do
  match path.parent?, path.fileName? with
  | some above, some name =>
    try
      let found ← read (placeOf path.text) ⟨above.text, name⟩
      return wayTo (placeOf above.text) ++ found
    catch _ => return []
  | _, _ => return []

/-- The environment that the system passes on. -/
def environment : IO Environment := do
  return {
    home := (← IO.getEnv "HOME").getD "/"
    configHome := ← IO.getEnv "XDG_CONFIG_HOME"
    configDirs := ← IO.getEnv "XDG_CONFIG_DIRS"
    logFilter := ← IO.getEnv "RUST_LOG" }

/-- The disk that a run sees. -/
def disk (env : Environment) : IO Disk := do
  let here := (← IO.FS.realPath (← IO.currentDir)).toString
  let packages := (Path.mk here).ancestors.map (·.join Resolution.packageDirectory)
  let settings := env.userFile :: Environment.systemFallback :: env.systemCandidates
  let found ← (Path.mk here :: packages ++ settings).mapM readPath
  return { entries := found.flatten, workingDirectory := placeOf here }

/-- Writes what differs between two disks. -/
def writeBack (before after : Disk) : IO Unit := do
  for (place, entry) in after.entries.reverse do
    let path := (Disk.canonical place).text
    match before.entry? place, entry with
    | none, .directory => IO.FS.createDirAll path
    | some (.file old), .file content =>
      if old.data ≠ content.data then IO.FS.writeBinFile path content
    | none, .file content => IO.FS.writeBinFile path content
    | _, _ => pure ()

end ScriptBundle.Surroundings

open ScriptBundle in
/-- Runs with the arguments of the command line and ends with the exit code of the run. -/
def main (arguments : List String) : IO UInt32 := do
  let env ← Surroundings.environment
  let before ← Surroundings.disk env
  let ending := CommandLine.run before env arguments
  Surroundings.writeBack before ending.disk
  (← IO.getStdout).putStr ending.output
  (← IO.getStderr).putStr ending.errors
  return ending.exitCode.toUInt32
