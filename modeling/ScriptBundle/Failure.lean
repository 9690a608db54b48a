import ScriptBundle.Disk

/-! What can go wrong. A bundle error stops the making of a bundle; a failure is what the program as
a whole reports, a chain of texts from the outermost circumstance to the innermost cause. -/
namespace ScriptBundle

/-- What stops the making of a bundle. -/
inductive BundleError where
  | resolution (specifier : String) (importer : Path)
  | unsupportedSyntax (module : Path) (construct : String)
  | parse (module : Path) (diagnostic : String)
  | incompleteDependency (identity : Path)
  | io (path : Path) (cause : Fault)
  | codegen (module : Path) (cause : Fault)
  deriving DecidableEq, Inhabited, Repr

namespace BundleError

def message : BundleError → String
  | .resolution specifier importer =>
    "Couldn't resolve: " ++ specifier ++ " imported from " ++ importer.text
  | .unsupportedSyntax module construct =>
    "Unsupported syntax in " ++ module.text ++ ": " ++ construct
  | .parse module diagnostic => "Failed to parse " ++ module.text ++ ": " ++ diagnostic
  | .incompleteDependency identity => "Dependency wasn't transformed: " ++ identity.text
  | .io path _ => "Failed to read module " ++ path.text
  | .codegen module _ => "Failed to generate code for " ++ module.text

/-- The texts of an error, outermost first. -/
def chain : BundleError → List String
  | .io path cause => [message (.io path cause), cause.message]
  | .codegen module cause => [message (.codegen module cause), cause.message]
  | e => [e.message]

end BundleError

/-- What is worth a warning: a call that looks like a reference to a module and is none. -/
inductive BundleWarning where
  | malformedRequire (module : Path) (arguments : Nat)
  deriving DecidableEq, Inhabited, Repr

def BundleWarning.message : BundleWarning → String
  | .malformedRequire module arguments =>
    "require called with " ++ toString arguments ++ " arguments in " ++ module.text ++
      ", left unbundled"

/-- What the program reports as a whole. -/
inductive Failure where
  | bundle (error : BundleError)
  | other (text : String)
  | fault (cause : Fault)
  | within (context : String) (inner : Failure)
  deriving DecidableEq, Inhabited, Repr

namespace Failure

/-- The texts of a failure, outermost first. -/
def chain : Failure → List String
  | .bundle error => error.chain
  | .other text => [text]
  | .fault cause => [cause.message]
  | .within context inner => context :: inner.chain

/-- The bundle error at the bottom of a failure. -/
def bundleError? : Failure → Option BundleError
  | .bundle error => some error
  | .within _ inner => inner.bundleError?
  | _ => none

/-- All texts on one line. -/
def message (f : Failure) : String := ": ".intercalate f.chain

end Failure

end ScriptBundle
