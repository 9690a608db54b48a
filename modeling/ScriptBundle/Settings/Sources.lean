import ScriptBundle.Settings

/-! Where settings come from: a file asked for by name, then the files of the project, of the user and
of the system, as far as they exist. -/
namespace ScriptBundle

/-- What the surroundings of a run tell it. -/
structure Environment where
  home : String
  configHome : Option String := none
  configDirs : Option String := none
  logFilter : Option String := none
  deriving Inhabited, Repr

/-- The name of the directory of settings inside a root for configuration. -/
def settingsDirectory : String := "reqless"

/-- The name of every file of settings. -/
def settingsFile : String := "reqless.toml"

namespace Environment

/-- The file of the user's settings, whether or not it exists. A root for configuration counts only
if it is absolute. -/
def userFile (env : Environment) : Path :=
  let root := match env.configHome.filter fun root => (Path.mk root).isAbsolute with
    | some root => Path.mk root
    | none => (Path.mk env.home).join ".config"
  (root.join settingsDirectory).join settingsFile

/-- The parts of a text between colons, up to the first empty one. -/
def listed (dirs : String) : List String :=
  (dirs.splitOn ":").takeWhile (· ≠ "")

/-- The files that may hold settings of the system, in the order in which they are tried. -/
def systemCandidates (env : Environment) : List Path :=
  let dirs := match env.configDirs with
    | some dirs => if dirs = "" then "/etc/xdg" else dirs
    | none => "/etc/xdg"
  (listed dirs).map fun dir => ((Path.mk dir).join settingsDirectory).join settingsFile

/-- The last resort for settings of the system. -/
def systemFallback : Path := ((Path.mk "/etc").join settingsDirectory).join settingsFile

/-- The file of the system's settings, if there is one. -/
def systemFile (env : Environment) (disk : Disk) : StateM Log (Option Path) := do
  match env.systemCandidates.find? disk.isFile with
  | some file => return some file
  | none =>
    match disk.locate systemFallback with
    | .ok _ => return some systemFallback
    | .error .notFound => return none
    | .error fault =>
      modify (·.push ⟨.warn, "reqless::dirs",
        "Failed to query system configuration file: " ++ fault.message⟩)
      return none

end Environment

namespace Settings

/-- A file that may hold a layer; only an asked-for file has to exist. -/
structure Source where
  path : Path
  description : String
  required : Bool
  deriving Inhabited, Repr

/-- The sources of settings, highest first. -/
def sources (asked : Option Path) (user : Path) (system : Option Path) : List Source :=
  (asked.map (⟨·, "CLI config", true⟩)).toList ++
    [⟨⟨settingsFile⟩, "project config", false⟩, ⟨user, "user config", false⟩] ++
    (system.map (⟨·, "system config", false⟩)).toList

/-- The layers of the sources that exist, combined on top of the given ones. -/
def loadLayers (disk : Disk) : Layer → List Source → ExceptT Failure (StateM Log) Layer
  | merged, [] => return merged
  | merged, source :: rest => do
    if !source.required && !disk.exists? source.path then loadLayers disk merged rest
    else
      modify (·.push ⟨.debug, "reqless::config",
        "Loading " ++ source.description ++ " from: " ++ source.path.quoted⟩)
      match Layer.load disk source.path with
      | .ok layer => loadLayers disk (merged.combine layer) rest
      | .error e => throw (.within
          ("Failed to load " ++ source.description ++ " from " ++ source.path.quoted) e)

/-- The settings of a run before its own options count. -/
def load (disk : Disk) (env : Environment) (asked : Option Path) :
    ExceptT Failure (StateM Log) Settings := do
  let system ← env.systemFile disk
  let merged ← loadLayers disk {} (sources asked env.userFile system)
  let settings := merged.toSettings
  match settings.edition with
  | .ok _ => return settings
  | .error e => throw (.within ("Invalid target in final config: " ++ settings.target) e)

end Settings

end ScriptBundle
