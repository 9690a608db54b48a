import ScriptBundle.Bundle
import ScriptBundle.CommandLine.Arguments
import ScriptBundle.CommandLine.Help
import ScriptBundle.Log.Filter
import ScriptBundle.Settings.Sources

/-! A whole run: arguments are read, settings loaded, and a bundle is printed or written. What the run
leaves behind is a value. -/
namespace ScriptBundle.CommandLine

/-- What a run leaves behind. -/
structure Ending where
  exitCode : Nat
  output : String
  /-- What is told beside the output: reports, and why the run failed. -/
  errors : String
  disk : Disk

def topic : String := "reqless"

/-- The lowest level of reports that a verbosity asks for. -/
def levelOf : Nat → Level
  | 0 => .warn
  | 1 => .info
  | 2 => .debug
  | _ => .trace

/-- The settings of a run after its own options count. -/
def Options.refine (o : Options) (settings : Settings) : Except Failure Settings := do
  let settings ← match o.target with
    | some target => settings.setTarget target
    | none => .ok settings
  return { settings with
    instantiation := o.instantiation.getD settings.instantiation
    minify := settings.minify || o.minify }

/-- How a report shows the file for a bundle. -/
def outputLabel : Option Path → String
  | some output => "Some(" ++ output.quoted ++ ")"
  | none => "None"

/-- Makes the bundle that was asked for, and returns what is to be printed. -/
def serve (env : Environment) (o : Options) : Task String := do
  Task.report topic .debug ("Verbosity level: " ++ toString o.verbosity ++ " (log level: " ++
    (levelOf o.verbosity).name ++ ")")
  Task.report topic .info "Starting reqless bundler"
  Task.report topic .debug ("Entry point: " ++ o.entry.quoted)
  Task.report topic .debug ("Output: " ++ outputLabel o.output)
  let settings ← Task.ofReporting (Settings.load (← getThe Disk) env o.settings)
  let settings ← o.refine settings
  Task.report topic .debug ("Configuration: " ++ settings.label)
  match o.output with
  | some output =>
    Bundle.toFile settings o.entry output
    Task.report topic .info ("Bundle created successfully at " ++ output.quoted)
    return ""
  | none =>
    let code ← Task.ofReporting (Bundle.toText settings (← getThe Disk) o.entry)
    Task.report topic .info "Bundle output to stdout"
    return code

/-- A text whose further lines are indented as far as its first one. -/
def hanging (start indent text : String) : String :=
  start ++ ("\n" ++ indent).intercalate (text.splitOn "\n")

/-- Causes below each other, numbered if there are several. -/
def causeLines : List String → List String
  | [] => []
  | [cause] => ["", "Caused by:", hanging "    " "    " cause]
  | causes => ["", "Caused by:"] ++ causes.zipIdx.map fun (cause, number) =>
      let digits := toString number
      hanging (Help.blanks (5 - digits.length) ++ digits ++ ": ") "       " cause

/-- How a run tells why it failed. -/
def failureText (f : Failure) : String :=
  match f.chain with
  | [] => "Error: "
  | top :: causes => "\n".intercalate (("Error: " ++ top) :: causeLines causes)

/-- Lines with their ends. -/
def linesText (lines : List String) : String := String.join (lines.map (· ++ "\n"))

/-- A run with the given disk and surroundings. -/
def run (disk : Disk) (env : Environment) (arguments : List String) : Ending :=
  match Options.ofArguments arguments with
  | .error (.help isLong) => ⟨0, Help.text isLong, "", disk⟩
  | .error .version => ⟨0, Help.version, "", disk⟩
  | .error (.misuse m) => ⟨2, "", linesText ["error: " ++ m.message], disk⟩
  | .ok o =>
    let (filter, warnings) := Log.Filter.ofText (env.logFilter.getD (levelOf o.verbosity).name)
    let ((result, disk), log) := (serve env o).run.run disk |>.run .empty
    let lines := warnings ++ log.shown filter
    match result with
    | .ok output => ⟨0, output, linesText lines, disk⟩
    | .error f => ⟨1, "", linesText (lines ++ [failureText f]), disk⟩

end ScriptBundle.CommandLine
