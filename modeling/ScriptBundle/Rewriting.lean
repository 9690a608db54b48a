import ScriptBundle.Rewriting.Lowering
import ScriptBundle.Rewriting.Requires
import ScriptBundle.Script.Grammar
import ScriptBundle.Script.Location
import ScriptBundle.Script.Printer
import ScriptBundle.Script.Lowering

/-! A module on its way into a bundle: read, linked through the dispatcher instead of imports and
exports, freed of types, and printed. -/
namespace ScriptBundle.Rewriting

open Script

/-- Links a module whose identifiers are marked: first its items, then the calls in them. -/
def link (disk : Disk) (importer : Path) (m : Module) : Rewrite Module := do
  let items ← lowerItems disk importer (typeOnlyNames m.items) m.items
  return { m with items := ← redirectAll disk importer items }

end ScriptBundle.Rewriting

namespace ScriptBundle

/-- Reads a source as a module. -/
def parseModule (path : Path) (source : String) : Except BundleError Script.Module :=
  (Script.Module.ofSource source).mapError fun complaint => .parse path (complaint.text source)

/-- The text of a source without types. -/
def printSource (style : Script.Style) (path : Path) (source : String) :
    Except BundleError String := do
  return (← parseModule path source).resolved.plain.print style

/-- The linked text of a source, and what was found on the way. -/
def rewriteSource (style : Script.Style) (disk : Disk) (path : Path) (source : String) :
    Work (String × Rewriting.Outcome) := do
  let m ← parseModule path source
  let (linked, outcome) ← (Rewriting.link disk path m.resolved).run {}
  return (linked.plain.print style, outcome)

end ScriptBundle
