import ScriptBundle.Assembly
import ScriptBundle.Build

/-! Bundles: built, assembled, and printed or written to a file. A file is written only when the
whole bundle is there, so a failure before leaves every file as it was. -/
namespace ScriptBundle

/-- A finished program, and what was worth a warning on the way. -/
structure Bundle where
  code : String
  warnings : List BundleWarning
  deriving Inhabited

/-- A step that fails with the cause chain of the whole program and may report. -/
abbrev Reporting := ExceptT Failure (StateM Log)

namespace Reporting

def report (topic : String) (level : Level) (text : String) : Reporting Unit :=
  modify (·.push ⟨level, topic, text⟩)

/-- Runs a step of making a bundle with nothing found so far. -/
def ofWork {α : Type} (context : String) (work : Work α) : Reporting α := do
  let (result, session) := work.run.run { log := ← get }
  set session.log
  match result with
  | .ok a => return a
  | .error e => throw (.within context (.bundle e))

end Reporting

/-- A step that may also change the disk. What it did before it fails stays done. -/
abbrev Task := ExceptT Failure (StateT Disk (StateM Log))

namespace Task

def ofReporting {α : Type} (step : Reporting α) : Task α :=
  ExceptT.mk (fun disk => do return (← step.run, disk))

def report (topic : String) (level : Level) (text : String) : Task Unit :=
  ofReporting (Reporting.report topic level text)

/-- Changes the disk; a failure is put into context. -/
def change (context : String) (c : Disk.Change Unit) : Task Unit := do
  let (result, disk) := c.run.run (← getThe Disk)
  set disk
  match result with
  | .ok () => return
  | .error cause => throw (.within context (.fault cause))

end Task

namespace Bundle

def topic : String := "reqless::orchestrator"

/-- The bundle of an entry. -/
def make (settings : Settings) (disk : Disk) (entry : Path) : Reporting Bundle := do
  Reporting.report topic .debug ("Entry: " ++ entry.quoted)
  let edition ← settings.edition
  Reporting.report topic .debug ("Using target " ++ settings.target ++ " (" ++ edition.label ++ "), " ++
    settings.instantiation.label ++ " instantiation")
  let build ← Reporting.ofWork ("Failed to bundle " ++ entry.quoted)
    (Build.ofEntry ⟨edition, settings.minify⟩ disk entry)
  let modules := toString (build.dependencies.count + 1)
  Reporting.report topic .info ("Found " ++ modules ++ " modules to bundle")
  match assemble settings.instantiation settings.minify build.entrySource build.dependencies with
  | .error e => throw (.within "Failed to assemble bundle" (.bundle e))
  | .ok code =>
    Reporting.report "reqless::code_generator" .debug
      ("Assembled " ++ modules ++ " modules into " ++ toString code.utf8ByteSize ++ " bytes")
    return { code, warnings := build.warnings }

/-- The text of a bundle that is to be printed. -/
def toText (settings : Settings) (disk : Disk) (entry : Path) : Reporting String := do
  Reporting.report topic .info "Starting bundle process for stdout output"
  return (← make settings disk entry).code

/-- Writes a text to a file, whose directory is created if it is missing. -/
def save (output : Path) (text : String) : Task Unit := do
  match output.parent?.filter (·.text ≠ "") with
  | some directory =>
    Task.change ("Failed to create output directory: " ++ directory.quoted)
      (Disk.makeDirectories directory)
  | none => pure ()
  Task.change ("Failed to write output file: " ++ output.quoted) (Disk.writeText output text)

/-- Writes the bundle of an entry to a file. -/
def toFile (settings : Settings) (entry output : Path) : Task Unit := do
  Task.report topic .info "Starting bundle process"
  Task.report topic .debug ("Output: " ++ output.quoted)
  let bundle ← Task.ofReporting (make settings (← getThe Disk) entry)
  save output bundle.code
  Task.report topic .info ("Bundle written to: " ++ output.quoted)

end Bundle

end ScriptBundle
