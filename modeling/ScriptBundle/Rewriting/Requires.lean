import ScriptBundle.Rewriting.Generated
import ScriptBundle.Rewriting.Outcome

/-! Calls of `require` anywhere in a module, also in types. A call of the global function with one
string becomes a call of the dispatcher. Inner calls come first. The test of a loop that ends with its
test comes before the body, and the base of a class after the members. -/
namespace ScriptBundle.Rewriting

open Script

/-- The arguments of a call of the global function `require`. -/
def requireArguments? : Node → Option (List Node)
  | .mk (.call false) _ (.mk (.identifier "require" .unresolved) _ [] :: arguments) =>
    some (arguments.filter (!·.isTypes))
  | _ => none

/-- The specifier in the arguments of such a call. -/
def soleSpecifier? : List Node → Option String
  | [.mk (.string specifier _) _ []] => some specifier
  | _ => none

/-- What a node becomes whose parts are done. A number of arguments other than one is worth a
warning; an argument that is no string is left for the program that runs. -/
def redirectCall (disk : Disk) (importer : Path) (n : Node) : Rewrite Node := do
  match requireArguments? n with
  | none => return n
  | some arguments =>
    if arguments.length ≠ 1 then
      let warning := BundleWarning.malformedRequire importer arguments.length
      report .warn warning.message
      modify (·.warn warning)
      return n
    else
      match soleSpecifier? arguments with
      | none => return n
      | some specifier =>
        return dispatchWith (n.parts.filter (·.isTypes)) (← refer disk importer specifier)

mutual

/-- A node in which the calls are redirected. -/
def redirect (disk : Disk) (importer : Path) : Node → Rewrite Node
  | .mk .doWhile offset [body, test] => do
    let test ← redirect disk importer test
    let body ← redirect disk importer body
    return .mk .doWhile offset [body, test]
  | .mk .classBody offset (base :: members) => do
    let members ← redirectAll disk importer members
    let base ← redirect disk importer base
    return .mk .classBody offset (base :: members)
  | .mk kind offset parts => do
    redirectCall disk importer (.mk kind offset (← redirectAll disk importer parts))

def redirectAll (disk : Disk) (importer : Path) : List Node → Rewrite (List Node)
  | [] => return []
  | n :: rest => do
    let n ← redirect disk importer n
    return n :: (← redirectAll disk importer rest)

end

end ScriptBundle.Rewriting
