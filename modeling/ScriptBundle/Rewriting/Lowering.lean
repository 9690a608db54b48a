import ScriptBundle.Rewriting.TypeNames
import ScriptBundle.Rewriting.Generated
import ScriptBundle.Rewriting.Outcome

/-! From the forms of imports and exports to statements. An import takes names from what the
dispatcher returns; an export adds to what the module exports so far. -/
namespace ScriptBundle.Rewriting

open Script

namespace ImportBinding

/-- The part of a pattern that takes an import out of all exports. -/
def pattern (b : ImportBinding) : Node :=
  match b.imported with
  | some key => Node.property key b.binding
  | none => Node.shorthand b.binding

end ImportBinding

namespace ExportBinding

/-- The property of all exports for an export. -/
def property (b : ExportBinding) : Node :=
  match b.exported with
  | some key => Node.property key b.binding
  | none => Node.shorthand b.binding

end ExportBinding

namespace ImportForm

/-- The specifier of the module that an import needs when the program runs. -/
def specifier? : ImportForm → Option String
  | .typeOnly => none
  | .sideEffect specifier => some specifier
  | .bindings specifier _ _ => some specifier

/-- The constant for names that are taken out of a value, if there are such names. -/
def takeNames (named : List ImportBinding) (source : Node) : List Node :=
  if named.isEmpty then []
  else [constant (.mk .objectPattern 0 (named.map ImportBinding.pattern)) source]

/-- The statements for an import of a module with a known identity. -/
def statements (identity : Identity) : ImportForm → List Node
  | .typeOnly => []
  | .sideEffect _ => [Node.statement (dispatch identity)]
  | .bindings _ (some whole) named =>
    constant whole (dispatch identity) :: takeNames named whole
  | .bindings _ none named => takeNames named (dispatch identity)

end ImportForm

namespace ExportForm

/-- The statements for an export. -/
def statements : ExportForm → List Node
  | .typeOnly => []
  | .defaultExpression value => [mergeExports [defaultProperty value]]
  | .defaultDeclaration declaration value =>
    declaration.toList ++ [mergeExports [defaultProperty value]]
  | .names bindings _ =>
    if bindings.isEmpty then [] else [mergeExports (bindings.map ExportBinding.property)]

/-- The exported names that are left out as types. -/
def leftOut : ExportForm → List String
  | .names _ types => types
  | _ => []

end ExportForm

/-- The statements for an item of the module that imports. -/
def lowerItem (disk : Disk) (importer : Path) : ItemForm → Rewrite (List Node)
  | .statement n => return [n]
  | .exporting form => do
    form.leftOut.forM fun name => report .trace ("Dropping type-only export " ++ name)
    return form.statements
  | .importing form => do
    match form.specifier? with
    | none => return []
    | some specifier =>
      let identity ← Resolution.resolve disk specifier importer
      report .trace (importer.quoted ++ " depends on " ++ identity.quoted)
      modify (·.refer identity)
      return form.statements identity

/-- The statements for the items of a module, in their order. The first item that fails decides. -/
def lowerItems (disk : Disk) (importer : Path) (types : List String) :
    List Node → Rewrite (List Node)
  | [] => return []
  | n :: rest => do
    match ItemForm.ofNode types n with
    | .error construct => throw (.unsupportedSyntax importer construct)
    | .ok form =>
      let first ← lowerItem disk importer form
      return first ++ (← lowerItems disk importer types rest)

end ScriptBundle.Rewriting
