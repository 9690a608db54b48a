import ScriptBundle.Script.Usage

/-! Erasing what is there for types only: declarations without a value, members without a body,
assertions about types, and what stands in types. -/
namespace ScriptBundle.Script

namespace Node

/-- Whether a function, or what stands in the place of one, has a body. -/
def hasBody : Node → Bool
  | mk (.function ..) _ (_ :: body :: _) => !body.isAbsent
  | _ => true

mutual

/-- Whether a statement or an item leaves something behind when types are gone. -/
def isConcrete : Node → Bool
  | mk (.functionDeclaration _) _ [_, function] => function.hasBody
  | mk (.namespace ..) _ [_, body] => body.isConcrete
  | mk .namespaceBlock _ items => isAnyConcrete items
  | mk .exportDeclaration _ [inner] => inner.isConcrete
  | mk .exportDefaultDeclaration _ [inner] => inner.isConcrete
  | mk kind _ _ =>
    match kind with
    | .absent | .empty | .interface | .typeAlias | .exportAsNamespace | .types _ => false
    | .import isTypeOnly | .exportNames isTypeOnly | .exportAll isTypeOnly
    | .alias _ isTypeOnly => !isTypeOnly
    | _ => true

def isAnyConcrete : List Node → Bool
  | [] => false
  | n :: rest => n.isConcrete || isAnyConcrete rest

end

/-- Whether a statement or an item only declares what is there without it. -/
def isDeclared : Node → Bool
  | mk .exportDeclaration _ [inner] => inner.isDeclared
  | mk kind _ _ =>
    match kind with
    | .variableList _ isDeclared | .functionDeclaration isDeclared | .classDeclaration isDeclared
    | .enum _ isDeclared => isDeclared
    | .namespace isDeclared isGlobal => isDeclared || isGlobal
    | _ => false

/-- Whether a member of a class is there when types are gone. -/
def isKeptMember : Node → Bool
  | mk (.field modifiers isAccessor) _ _ =>
    !modifiers.isAbstract && (isAccessor || !modifiers.isDeclared)
  | mk (.classMethod modifiers _) _ [_, function] => !modifiers.isAbstract && function.hasBody
  | mk .constructor _ [_, _, body] => !body.isAbsent
  | mk .erasedMember _ _ => false
  | _ => true

/-- Whether an element of a list of statements, items or members is there when types are gone. -/
def isKept (n : Node) : Bool := n.isConcrete && !n.isDeclared && n.isKeptMember

mutual

/-- A node without what is there for types only. -/
def withoutTypes : Node → Node
  | mk .cast _ (inner :: _) => inner.withoutTypes
  | mk .block offset statements => mk .block offset (keptWithoutTypes statements)
  | mk .namespaceBlock offset items => mk .namespaceBlock offset (keptWithoutTypes items)
  | mk .case offset (test :: statements) =>
    mk .case offset (test.withoutTypes :: keptWithoutTypes statements)
  | mk .classBody offset (base :: members) =>
    mk .classBody offset (base.withoutTypes :: keptWithoutTypes members)
  | mk kind offset parts => mk kind offset (allWithoutTypes parts)

def allWithoutTypes : List Node → List Node
  | [] => []
  | n :: rest =>
    if n.isTypes then allWithoutTypes rest else n.withoutTypes :: allWithoutTypes rest

def keptWithoutTypes : List Node → List Node
  | [] => []
  | n :: rest =>
    if n.isKept then n.withoutTypes :: keptWithoutTypes rest else keptWithoutTypes rest

end

end Node

end ScriptBundle.Script
