import ScriptBundle.Script.Tree

/-! Which declaration a name stands for. Scopes are numbered as they are met, the module's own scope
is number zero, and each identifier is marked with the innermost scope that declares its name. A
name that no scope declares is unresolved: it stands for something the module does not bind. Names of
types count where types stand, also for the expressions in them. -/
namespace ScriptBundle.Script

namespace Node

mutual

/-- The symbols that a pattern, a list of declared variables or a part of an import binds. -/
def boundSymbols : Node → List Symbol
  | mk (.identifier name mark) _ _ => [(name, mark)]
  | mk .property _ [_, value] => value.boundSymbols
  | mk .shorthand _ (name :: _) => name.boundSymbols
  | mk .defaulted _ (pattern :: _) => pattern.boundSymbols
  | mk .declarator _ (pattern :: _) => pattern.boundSymbols
  | mk (.importNamed _) _ [_, name] => name.boundSymbols
  | mk kind _ parts =>
    match kind with
    | .arrayPattern | .objectPattern | .rest | .parameterProperty | .parameters | .variableList ..
    | .using _ | .importDefault | .importNamespace => boundSymbolsOfAll parts
    | _ => []

def boundSymbolsOfAll : List Node → List Symbol
  | [] => []
  | n :: rest => n.boundSymbols ++ boundSymbolsOfAll rest

end

def boundNames (n : Node) : List String := n.boundSymbols.map (·.1)

def boundNamesOfAll (ns : List Node) : List String := (boundSymbolsOfAll ns).map (·.1)

/-- The names that a statement declares in the scope it stands in, apart from those that belong to
the function around it. -/
def lexicalNames : Node → List String
  | mk (.variableList .var _) _ _ => []
  | mk (.variableList binding isDeclared) offset parts =>
    boundNames (mk (.variableList binding isDeclared) offset parts)
  | mk (.using isAwait) offset parts => boundNames (mk (.using isAwait) offset parts)
  | mk (.classDeclaration _) _ (name :: _) => name.boundNames
  | mk (.enum ..) _ (name :: _) => name.boundNames
  | mk (.namespace ..) _ (name :: _) => name.boundNames
  | mk (.alias ..) _ (name :: _) => name.boundNames
  | mk (.import _) _ (_ :: _ :: names) => boundNamesOfAll names
  | mk .exportDeclaration _ [inner] => inner.lexicalNames
  | mk .exportDefaultDeclaration _ [inner] => inner.lexicalNames
  | _ => []

/-- The name of a function that a statement declares. -/
def functionNames : Node → List String
  | mk (.functionDeclaration _) _ (name :: _) => name.boundNames
  | mk .exportDeclaration _ [inner] => inner.functionNames
  | mk .exportDefaultDeclaration _ [inner] => inner.functionNames
  | _ => []

/-- The names that a statement declares as types in the scope it stands in. -/
def lexicalTypes : Node → List String
  | mk .interface _ (name :: _) => name.boundNames
  | mk .typeAlias _ (name :: _) => name.boundNames
  | mk .exportDeclaration _ [inner] => inner.lexicalTypes
  | mk .exportDefaultDeclaration _ [inner] => inner.lexicalTypes
  | _ => []

/-- The names that types bind which belong to a node. -/
def boundTypes : Node → List String
  | mk (.types names) _ _ => names
  | _ => []

/-- The type parameters of a class, which stand with its base. -/
def classTypes : Node → List String
  | mk .cast _ (_ :: types) => types.flatMap boundTypes
  | _ => []

mutual

/-- The names that a statement declares in the function around it, from whatever block. -/
def hoistedNames : Node → List String
  | mk (.variableList .var isDeclared) offset parts =>
    boundNames (mk (.variableList .var isDeclared) offset parts)
  | mk (.functionDeclaration _) _ (name :: _) => name.boundNames
  | mk kind _ parts =>
    match kind with
    | .exportDeclaration | .exportDefaultDeclaration | .block | .ifElse | .forLoop | .forIn
    | .forOf _ | .while | .doWhile | .try | .catch | .switch | .case | .labeled _ =>
      hoistedNamesOfAll parts
    | _ => []

def hoistedNamesOfAll : List Node → List String
  | [] => []
  | n :: rest => n.hoistedNames ++ hoistedNamesOfAll rest

end

/-- The name of a member of an enumeration, where the members can see it. -/
def enumeratorNames : Node → List String
  | mk .enumerator _ (mk (.word name) _ _ :: _) => [name]
  | _ => []

/-- The names that the clauses of a choice declare together. -/
def clauseNames : Node → List String
  | mk .case _ (_ :: statements) => statements.flatMap lexicalNames
  | _ => []

def clauseTypes : Node → List String
  | mk .case _ (_ :: statements) => statements.flatMap lexicalTypes
  | _ => []

end Node

/-- A scope with its number and the names it declares, as values and as types. -/
structure Scope where
  number : Nat
  names : List String
  types : List String
  deriving Inhabited

/-- The names of a scope that count where types stand or where they do not. -/
def Scope.visible (inType : Bool) (scope : Scope) : List String :=
  if inType then scope.names ++ scope.types else scope.names

/-- The scopes around a place, innermost first, the names that functions in blocks may not take over
from the scope of the function around them, which are its parameters and lexical names, and whether a
type stands around the place. -/
structure Scopes where
  chain : List Scope
  reserved : List String
  inType : Bool
  deriving Inhabited

namespace Scopes

/-- The scopes around a module. -/
def outermost : Scopes := ⟨[], [], false⟩

def mark (scopes : Scopes) (name : String) : Mark :=
  match scopes.chain.find? fun scope => (scope.visible scopes.inType).contains name with
  | some scope => .scope scope.number
  | none => .unresolved

/-- Counts the scopes. -/
abbrev Numbering := StateM Nat

/-- The scopes inside a block that declares names. -/
def enter (scopes : Scopes) (names types : List String) : Numbering Scopes := do
  let number ← get
  set (number + 1)
  return { scopes with chain := ⟨number, names, types⟩ :: scopes.chain }

/-- The scopes inside a type that binds names. -/
def enterTypes (scopes : Scopes) (types : List String) : Numbering Scopes :=
  { scopes with inType := true }.enter [] types

/-- The scopes inside a block with statements. -/
def enterBlock (scopes : Scopes) (statements : List Node) : Numbering Scopes :=
  scopes.enter (statements.flatMap Node.lexicalNames ++
    (statements.flatMap Node.functionNames).filter scopes.reserved.contains)
    (statements.flatMap Node.lexicalTypes)

/-- The scopes inside a module or of what else is like a function without parameters. -/
def enterBody (scopes : Scopes) (statements : List Node) : Numbering Scopes := do
  let lexical := statements.flatMap Node.lexicalNames
  let inner ← scopes.enter (lexical ++ Node.hoistedNamesOfAll statements)
    (statements.flatMap Node.lexicalTypes)
  return { inner with reserved := lexical }

/-- The scopes at the head of a block and in the block itself, which declares more names. Both are
of one number. -/
def enterTwice (scopes : Scopes) (names types more moreTypes : List String) :
    Numbering (Scopes × Scopes) := do
  let number ← get
  let head ← scopes.enter names types
  return (head, { head with chain := ⟨number, more, moreTypes⟩ :: head.chain })

/-- The scopes at the head of a function, with its parameters and type parameters, and in its body. -/
def enterFunction (scopes : Scopes) (parameters types : List String) (statements : List Node) :
    Numbering (Scopes × Scopes) := do
  let lexical := statements.flatMap Node.lexicalNames
  let (head, body) ← scopes.enterTwice parameters types
    (lexical ++ Node.hoistedNamesOfAll statements) (statements.flatMap Node.lexicalTypes)
  return (head, { body with reserved := parameters ++ lexical })

/-- The scopes at the head of a handler of what was thrown, and in its block. -/
def enterHandler (scopes : Scopes) (thrown : List String) (statements : List Node) :
    Numbering (Scopes × Scopes) :=
  scopes.enterTwice thrown [] (statements.flatMap Node.lexicalNames)
    (statements.flatMap Node.lexicalTypes)

end Scopes

namespace Node

open Scopes

mutual

/-- Marks the identifiers of a node. The types of a function stand at its head; those of an arrow
function see what its body declares. -/
def resolve (scopes : Scopes) : Node → Numbering Node
  | mk (.identifier name _) offset types =>
    return mk (.identifier name (scopes.mark name)) offset (← resolveAll scopes types)
  | mk (.types names) offset parts => do
    let inner ← scopes.enterTypes names
    return mk (.types names) offset (← resolveAll inner parts)
  | mk (.function isAsync isGenerator) offset (parameters :: mk .block place statements :: types) => do
    let (head, inner) ← scopes.enterFunction parameters.boundNames (types.flatMap boundTypes) statements
    let parameters ← parameters.resolve head
    let body := mk .block place (← resolveAll inner statements)
    return mk (.function isAsync isGenerator) offset
      (parameters :: body :: (← resolveAll head types))
  | mk (.function isAsync isGenerator) offset (parameters :: body :: types) => do
    let (head, inner) ← scopes.enterFunction parameters.boundNames (types.flatMap boundTypes) []
    let parameters ← parameters.resolve head
    let body ← body.resolve inner
    return mk (.function isAsync isGenerator) offset
      (parameters :: body :: (← resolveAll head types))
  | mk (.arrow isAsync) offset (parameters :: mk .block place statements :: types) => do
    let (head, inner) ← scopes.enterFunction parameters.boundNames (types.flatMap boundTypes) statements
    let parameters ← parameters.resolve head
    let body := mk .block place (← resolveAll inner statements)
    return mk (.arrow isAsync) offset (parameters :: body :: (← resolveAll inner types))
  | mk (.arrow isAsync) offset (parameters :: body :: types) => do
    let (head, inner) ← scopes.enterFunction parameters.boundNames (types.flatMap boundTypes) []
    let parameters ← parameters.resolve head
    let body ← body.resolve inner
    return mk (.arrow isAsync) offset (parameters :: body :: (← resolveAll inner types))
  | mk .constructor offset [key, parameters, mk .block place statements] => do
    let (head, inner) ← scopes.enterFunction parameters.boundNames [] statements
    return mk .constructor offset
      [← key.resolve scopes, ← parameters.resolve head,
        mk .block place (← resolveAll inner statements)]
  | mk .constructor offset [key, parameters, body] => do
    let (head, inner) ← scopes.enterFunction parameters.boundNames [] []
    return mk .constructor offset
      [← key.resolve scopes, ← parameters.resolve head, ← body.resolve inner]
  | mk .staticBlock offset [mk .block place statements] => do
    let inner ← scopes.enterBody statements
    return mk .staticBlock offset [mk .block place (← resolveAll inner statements)]
  | mk .functionExpression offset [name, function] => do
    let inner ← scopes.enter name.boundNames []
    return mk .functionExpression offset [← name.resolve inner, ← function.resolve inner]
  | mk .classExpression offset [name, body] => do
    let inner ← scopes.enter name.boundNames []
    return mk .classExpression offset [← name.resolve inner, ← body.resolve inner]
  | mk .classBody offset (base :: members) => do
    let base' ← base.resolve scopes
    let inner ← scopes.enter [] base.classTypes
    return mk .classBody offset (base' :: (← resolveAll inner members))
  | mk .block offset statements => do
    let inner ← scopes.enterBlock statements
    return mk .block offset (← resolveAll inner statements)
  | mk .forLoop offset (head :: rest) => do
    let inner ← scopes.enter head.lexicalNames []
    return mk .forLoop offset ((← head.resolve inner) :: (← resolveAll inner rest))
  | mk .forIn offset (head :: rest) => do
    let inner ← scopes.enter head.lexicalNames []
    return mk .forIn offset ((← head.resolve inner) :: (← resolveAll inner rest))
  | mk (.forOf isAwait) offset (head :: rest) => do
    let inner ← scopes.enter head.lexicalNames []
    return mk (.forOf isAwait) offset ((← head.resolve inner) :: (← resolveAll inner rest))
  | mk .switch offset (subject :: clauses) => do
    let subject ← subject.resolve scopes
    let inner ← scopes.enter (clauses.flatMap clauseNames) (clauses.flatMap clauseTypes)
    return mk .switch offset (subject :: (← resolveAll inner clauses))
  | mk .catch offset [pattern, mk .block place statements] => do
    let (head, inner) ← scopes.enterHandler pattern.boundNames statements
    return mk .catch offset
      [← pattern.resolve head, mk .block place (← resolveAll inner statements)]
  | mk (.enum isConst isDeclared) offset (name :: members) => do
    let name ← name.resolve scopes
    let inner ← scopes.enter (members.flatMap enumeratorNames) []
    return mk (.enum isConst isDeclared) offset (name :: (← resolveAll inner members))
  | mk .namespaceBlock offset items => do
    let inner ← scopes.enterBody items
    return mk .namespaceBlock offset (← resolveAll inner items)
  | mk (.namespace isDeclared isGlobal) offset [name, body] => do
    let name ← name.resolve scopes
    let inner ← scopes.enter body.lexicalNames []
    return mk (.namespace isDeclared isGlobal) offset [name, ← body.resolve inner]
  | mk kind offset parts => return mk kind offset (← resolveAll scopes parts)

def resolveAll (scopes : Scopes) : List Node → Numbering (List Node)
  | [] => return []
  | n :: rest => return (← n.resolve scopes) :: (← resolveAll scopes rest)

end

end Node

/-- A module whose identifiers are marked. -/
def Module.resolved (m : Module) : Module :=
  let (items, _) := ((do
    let scopes ← Scopes.outermost.enterBody m.items
    Node.resolveAll scopes m.items : Scopes.Numbering (List Node))).run 0
  { m with items := items }

end ScriptBundle.Script
