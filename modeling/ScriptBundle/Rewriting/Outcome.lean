import ScriptBundle.Resolution

/-! What is found while a module is rewritten: the modules it refers to, each once and in the order
of the first reference, and what is worth a warning. -/
namespace ScriptBundle.Rewriting

structure Outcome where
  dependencies : List Identity := []
  warnings : List BundleWarning := []
  deriving Inhabited

namespace Outcome

/-- Records a reference to a module. -/
def refer (o : Outcome) (identity : Identity) : Outcome :=
  if o.dependencies.contains identity then o
  else { o with dependencies := o.dependencies ++ [identity] }

def warn (o : Outcome) (warning : BundleWarning) : Outcome :=
  { o with warnings := o.warnings ++ [warning] }

end Outcome

/-- A step of rewriting a module. -/
abbrev Rewrite := StateT Outcome Work

def report (level : Level) (text : String) : Rewrite Unit :=
  modifyThe Session (·.push ⟨level, "reqless::rewriter", text⟩)

/-- The module that a specifier refers to, which is recorded. -/
def refer (disk : Disk) (importer : Path) (specifier : String) : Rewrite Identity := do
  let identity ← Resolution.resolve disk specifier importer
  modify (·.refer identity)
  return identity

end ScriptBundle.Rewriting
