import ScriptBundle.Dependencies
import ScriptBundle.Failure
import ScriptBundle.Json.Quoted
import ScriptBundle.Log
import ScriptBundle.Rewriting.Generated
import ScriptBundle.Settings

/-! From linked modules to one program. The program starts with the dispatcher, which holds a
registry of all modules but the entry; the entry follows. Texts of modules are put in as they are,
since their line ends and blanks may lie inside of literals. -/
namespace ScriptBundle.Assembly

open Rewriting (dispatcher moduleObject exportsProperty)

/-- A piece of a program: a line that the assembler writes, indented for readers, or the text of a
module. -/
inductive Piece where
  | line (depth : Nat) (text : String)
  | verbatim (text : String)
  deriving DecidableEq, Inhabited, Repr

/-- A text with a line end behind it, unless it is empty or ends a line itself. -/
def endLine (text : String) : String :=
  if text.isEmpty || text.toList.getLast? = some '\n' then text else text ++ "\n"

/-- A compact program has no indentation. -/
def Piece.render (isCompact : Bool) : Piece → String
  | .line depth text =>
    (if isCompact then "" else String.ofList (List.replicate (2 * depth) ' ')) ++ text ++ "\n"
  | .verbatim text => endLine text

/-- The key of a module in the registry. -/
def key (identity : Identity) : String := Json.quoted identity.text

/-- The line that makes the object of a module. -/
def makeModule : String :=
  "const " ++ moduleObject ++ " = \x7b " ++ exportsProperty ++ ": \x7b\x7d \x7d;"

/-- The line that returns what a module exports. -/
def returnExports : String := "return " ++ moduleObject ++ "." ++ exportsProperty ++ ";"

/-- The entry of the registry for a module with its linked text. -/
def initializer (instantiation : Instantiation) (identity : Identity) (source : String) :
    List Piece :=
  match instantiation with
  | .cached =>
    [.line 2 (key identity ++ ": (" ++ moduleObject ++ ") => \x7b"),
      .verbatim source,
      .line 2 "\x7d,"]
  | .perDispatch =>
    [.line 2 (key identity ++ ": () => \x7b"),
      .line 3 makeModule,
      .verbatim source,
      .line 3 returnExports,
      .line 2 "\x7d,"]

/-- The test whether an object has a property of its own. -/
def owns (object : String) : String := "Object.prototype.hasOwnProperty.call(" ++ object ++ ", dep)"

/-- The lines that refuse a module which the registry does not have. -/
def refuseUnknown : List Piece :=
  [.line 2 ("if (!" ++ owns "registry" ++ ") \x7b"),
    .line 3 "throw new Error(\x60Unbundled dependency: $\x7bdep\x7d\x60);",
    .line 2 "\x7d"]

/-- The function that runs modules. A cached module is kept before its body runs, so that modules
which import each other see what the other one exports so far. -/
def dispatch : Instantiation → List Piece
  | .cached =>
    [.line 1 "const cache = \x7b\x7d;",
      .line 1 "return (dep) => \x7b",
      .line 2 ("if (" ++ owns "cache" ++ ") \x7b"),
      .line 3 ("return cache[dep]." ++ exportsProperty ++ ";"),
      .line 2 "\x7d"] ++
    refuseUnknown ++
    [.line 2 makeModule,
      .line 2 ("cache[dep] = " ++ moduleObject ++ ";"),
      .line 2 ("registry[dep](" ++ moduleObject ++ ");"),
      .line 2 returnExports,
      .line 1 "\x7d;"]
  | .perDispatch =>
    [.line 1 "return (dep) => \x7b"] ++
    refuseUnknown ++
    [.line 2 "return registry[dep]();",
      .line 1 "\x7d;"]

/-- The pieces of a program of linked modules. -/
def program (instantiation : Instantiation) (entrySource : String)
    (modules : List (Identity × String)) : List Piece :=
  [.line 0 ("const " ++ dispatcher ++ " = (() => \x7b"),
    .line 1 "const registry = \x7b"] ++
  modules.flatMap (fun (identity, source) => initializer instantiation identity source) ++
  [.line 1 "\x7d;"] ++
  dispatch instantiation ++
  [.line 0 "\x7d)();",
    .verbatim entrySource]

/-- The text of pieces in their order. -/
def render (isCompact : Bool) (pieces : List Piece) : String :=
  String.join (pieces.map (Piece.render isCompact))

/-- The modules with their texts, if all were visited. -/
def finished : List Record → Except BundleError (List (Identity × String))
  | [] => .ok []
  | ⟨identity, none⟩ :: _ => .error (.incompleteDependency identity)
  | ⟨identity, some source⟩ :: rest => do return (identity, source) :: (← finished rest)

end Assembly

/-- The program of an entry and all modules that it needs. The first module that was not visited
makes it fail. -/
def assemble (instantiation : Instantiation) (isCompact : Bool) (entrySource : String)
    (dependencies : Dependencies) : Except BundleError String := do
  let modules ← Assembly.finished dependencies.records
  return Assembly.render isCompact (Assembly.program instantiation entrySource modules)

end ScriptBundle
