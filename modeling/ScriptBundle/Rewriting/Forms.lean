import ScriptBundle.Script.Construction

/-! The imports and exports that a module may have if it is to be bundled. Every item that links
modules is either one of these forms or not supported; what is only about types is a form of its
own, since nothing remains of it. -/
namespace ScriptBundle.Rewriting

open Script

/-- A name that an import binds; the name on the other side is missing if it is the same. -/
structure ImportBinding where
  imported : Option Node
  binding : Node

/-- An import, with the text that says where it comes from. -/
inductive ImportForm where
  | typeOnly
  | sideEffect (specifier : String)
  | bindings (specifier : String) (whole : Option Node) (named : List ImportBinding)

/-- A name that an export provides; the name on the other side is missing if it is the same. -/
structure ExportBinding where
  binding : Node
  exported : Option Node

/-- An export. Of the names in a list, those that are only types are kept apart. -/
inductive ExportForm where
  | typeOnly
  | defaultExpression (value : Node)
  | defaultDeclaration (declaration : Option Node) (value : Node)
  | names (bindings : List ExportBinding) (types : List String)

inductive ItemForm where
  | importing (form : ImportForm)
  | exporting (form : ExportForm)
  | statement (n : Node)

/-- A name on the other side, unless it is spelt as the name on this side. -/
def otherName? (name binding : Node) : Option Node :=
  match name with
  | .mk .absent _ _ => none
  | .mk (.word text) offset parts =>
    if binding.name? = some text then none else some (.mk (.word text) offset parts)
  | name => some name

/-- What a specifier of an import binds, or nothing if it is a type. -/
def importBinding? : Node → Option ImportBinding
  | .mk .importDefault _ [name] => some ⟨some (.word "default"), name⟩
  | .mk (.importNamed false) _ [imported, name] => some ⟨otherName? imported name, name⟩
  | _ => none

/-- The name that an import gives to all exports of a module together. -/
def wholeBinding? (specifiers : List Node) : Option Node :=
  (specifiers.filterMap fun
    | .mk .importNamespace _ [name] => some name
    | _ => none).getLast?

namespace ImportForm

def ofParts (specifier : String) (specifiers : List Node) : ImportForm :=
  if specifiers.isEmpty then .sideEffect specifier
  else
    let whole := wholeBinding? specifiers
    let named := specifiers.filterMap importBinding?
    if whole.isNone && named.isEmpty then .typeOnly else .bindings specifier whole named

end ImportForm

namespace ExportForm

/-- The form of an export of a declaration as the default. A declaration with a name stays and its
name is exported; one without a name is an expression. -/
def ofDefault : Node → ExportForm
  | .mk (.functionDeclaration isDeclared) offset [name, function] =>
    if name.isAbsent then .defaultDeclaration none (.mk .functionExpression offset [name, function])
    else .defaultDeclaration (some (.mk (.functionDeclaration isDeclared) offset [name, function]))
      name
  | .mk (.classDeclaration isDeclared) offset [name, body] =>
    if name.isAbsent then .defaultDeclaration none (.mk .classExpression offset [name, body])
    else .defaultDeclaration (some (.mk (.classDeclaration isDeclared) offset [name, body])) name
  | _ => .typeOnly

/-- The names of a list, where the given ones are only types. -/
def ofNames (types : List String) (specifiers : List Node) : ExportForm :=
  let named := specifiers.filterMap fun
    | .mk (.exportName false) _ [name, exported] => some (name, exported)
    | _ => none
  let isType (name : Node) : Bool := name.name?.any types.contains
  .names
    ((named.filter fun (name, _) => !isType name).map fun (name, exported) =>
      ⟨name, otherName? exported name⟩)
    ((named.filter fun (name, _) => isType name).filterMap fun (name, _) => name.name?)

end ExportForm

/-- Whether nothing remains of a declaration when types are gone. -/
def isTypeLevel : Node → Bool
  | .mk kind _ _ =>
    match kind with
    | .interface | .typeAlias => true
    | .variableList _ isDeclared | .functionDeclaration isDeclared | .classDeclaration isDeclared
    | .enum _ isDeclared | .namespace isDeclared _ => isDeclared
    | _ => false

/-- How an exported declaration is called in a message. -/
def exportedKeyword : Node → String
  | .mk kind _ _ =>
    match kind with
    | .variableList binding _ => binding.word
    | .functionDeclaration _ => "function"
    | .classDeclaration _ => "class"
    | .enum .. => "enum"
    | .namespace .. => "namespace"
    | _ => "declaration"

/-- Whether a name in a list of exports is a string, which only another module can have a use for. -/
def isStringNamed : Node → Bool
  | .mk (.exportName false) _ (.mk (.string ..) _ _ :: _) => true
  | _ => false

/-- The form of an item, or how an item is called that is not supported. -/
def ItemForm.ofNode (types : List String) : Node → Except String ItemForm
  | .mk (.import isTypeOnly) _ (.mk (.string specifier _) _ _ :: _ :: specifiers) =>
    .ok (.importing (if isTypeOnly then .typeOnly else .ofParts specifier specifiers))
  | .mk .exportDefault _ [value] => .ok (.exporting (.defaultExpression value))
  | .mk .exportDefaultDeclaration _ [declaration] => .ok (.exporting (.ofDefault declaration))
  | .mk (.exportNames isTypeOnly) _ (source :: _ :: specifiers) =>
    if isTypeOnly then .ok (.exporting .typeOnly)
    else if !source.isAbsent then .error "export ... from (re-export)"
    else if specifiers.any isStringNamed then .error "export of a string-named binding"
    else .ok (.exporting (.ofNames types specifiers))
  | .mk .exportDeclaration _ [declaration] =>
    if isTypeLevel declaration then .ok (.exporting .typeOnly)
    else .error ("export " ++ exportedKeyword declaration ++
      " (exported declarations are not supported, use \x60export \x7b name \x7d\x60)")
  | .mk .exportAsNamespace _ _ => .ok (.exporting .typeOnly)
  | .mk (.alias _ isTypeOnly) _ _ =>
    if isTypeOnly then .ok (.importing .typeOnly) else .error "import = require()"
  | .mk (.exportAll _) _ _ => .error "export * from"
  | .mk .exportAssignment _ _ => .error "export ="
  | n => .ok (.statement n)

end ScriptBundle.Rewriting
