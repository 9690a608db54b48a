import ScriptBundle.Dependencies
import ScriptBundle.ModuleGraph
import ScriptBundle.Rewriting

/-! From the entry to all modules that it needs. The entry is visited first; then, generation after
generation, all modules that are known and were not visited, until a generation is empty. A visit
links one module and records what the module refers to. -/
namespace ScriptBundle

/-- What the visits found so far. -/
structure Survey where
  dependencies : Dependencies := {}
  graph : ModuleGraph := .empty
  warnings : List BundleWarning := []
  deriving Inhabited

/-- All that a bundle is made of. -/
structure Build where
  entry : Identity
  /-- The linked text of the entry. -/
  entrySource : String
  dependencies : Dependencies
  graph : ModuleGraph
  warnings : List BundleWarning
  /-- The modules visited in each generation after the entry. -/
  generations : List (List Identity)
  deriving Inhabited

namespace Build

/-- A step among the visits. -/
abbrev Visit := StateT Survey Work

def report (level : Level) (text : String) : Visit Unit :=
  modifyThe Session (·.push ⟨level, "reqless::graph_builder", text⟩)

/-- The linked text of the module in a file, and what was found in it. -/
def link (style : Script.Style) (disk : Disk) (identity : Identity) :
    Work (String × Rewriting.Outcome) := do
  match disk.readText identity with
  | .error cause => throw (.io identity cause)
  | .ok source => rewriteSource style disk identity source

/-- Records that a module refers to another one. -/
def recordReference (source target : Identity) : Visit Unit := do
  let survey ← get
  if target ∉ survey.dependencies.identities then report .trace ("Discovered " ++ target.quoted)
  set { survey with
    dependencies := survey.dependencies.discover target
    graph := survey.graph.addDependency source target }

/-- Visits a module and returns its linked text. -/
def visit (style : Script.Style) (disk : Disk) (identity : Identity) : Visit String := do
  report .trace ("Visiting " ++ identity.quoted)
  let (text, outcome) ← link style disk identity
  modify fun survey => { survey with graph := (survey.graph.addModule identity).1 }
  outcome.dependencies.forM (recordReference identity)
  modify fun survey => { survey with warnings := survey.warnings ++ outcome.warnings }
  let targets := (← get).graph.dependenciesOf identity
  report .trace (identity.quoted ++ " imports [" ++ ", ".intercalate (targets.map Path.quoted) ++ "]")
  return text

/-- Visits a known module and keeps its text. -/
def visitDependency (style : Script.Style) (disk : Disk) (identity : Identity) : Visit Unit := do
  let text ← visit style disk identity
  modify fun survey =>
    { survey with dependencies := survey.dependencies.complete identity text }

/-- Visits at most `fuel` generations, of which the first has the given number. -/
def visitGenerations (style : Script.Style) (disk : Disk) :
    Nat → Nat → Visit (List (List Identity))
  | 0, _ => return []
  | fuel + 1, number => do
    let known := (← get).dependencies
    if known.pending.isEmpty then return []
    else
      report .debug ("Generation " ++ toString number ++ ": " ++ toString known.pending.length ++
        " unvisited of " ++ toString known.count ++ " discovered modules")
      known.pending.forM (visitDependency style disk)
      return known.pending :: (← visitGenerations style disk fuel (number + 1))

/-- Reports a group of modules that import each other, and for each of them by whom it is imported. -/
def reportCycle (graph : ModuleGraph) (members : List Path) : Visit Unit := do
  report .info ("Import cycle: " ++ " <-> ".intercalate (members.map (·.text)))
  members.forM fun member =>
    report .debug ("  " ++ member.text ++ " imported by " ++
      ", ".intercalate ((graph.dependentsOf member).map (·.text)))

/-- Visits the entry and then all generations. Every generation visits a file that was not visited
before, so there are fewer generations than the disk has entries, and one. -/
def visitAll (style : Script.Style) (disk : Disk) (entry : Identity) :
    Visit (String × List (List Identity)) := do
  let text ← visit style disk entry
  let generations ← visitGenerations style disk (disk.entries.length + 1) 1
  let survey ← get
  survey.graph.findCycles.forM (reportCycle survey.graph)
  report .info ("Module graph complete: " ++ toString survey.dependencies.count ++
    " dependencies in " ++ toString generations.length ++ " generations")
  return (text, generations)

/-- All that the bundle of an entry is made of. -/
def ofEntry (style : Script.Style) (disk : Disk) (entry : Path) : Work Build := do
  match disk.canonicalize entry with
  | .error cause => throw (.io entry cause)
  | .ok entry =>
    let ((entrySource, generations), survey) ← (do
      report .info ("Building module graph from " ++ entry.quoted)
      visitAll style disk entry).run {}
    return {
      entry
      entrySource
      dependencies := survey.dependencies
      graph := survey.graph
      warnings := survey.warnings
      generations }

end Build

end ScriptBundle
