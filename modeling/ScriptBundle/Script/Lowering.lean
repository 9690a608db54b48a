import ScriptBundle.Script.Enumeration
import ScriptBundle.Script.Erasure
import ScriptBundle.Script.ParameterProperties

/-! Enumerations and namespaces, which plain scripts do not have, in terms of what these do have. An
enumeration or a namespace becomes a variable and a function that is called at once to fill an
object; a constant member of an enumeration is replaced by its value wherever it is used. -/
namespace ScriptBundle.Script

/-- What lowering has to know of the whole module. -/
structure Knowledge where
  enumerations : Enumerations
  /-- The enumerations that are said to be constant. -/
  constant : List Symbol
  /-- The exported names, each with the namespace that exports it if it is not the module. -/
  exported : List (Symbol × Option Symbol)

namespace Node

mutual

/-- The enumerations in a node that are said to be constant. -/
def constantEnumerations : Node → List Symbol
  | mk (.enum true _) _ (name :: members) =>
    name.symbol?.toList ++ constantEnumerationsOfAll members
  | mk _ _ parts => constantEnumerationsOfAll parts

def constantEnumerationsOfAll : List Node → List Symbol
  | [] => []
  | n :: rest => n.constantEnumerations ++ constantEnumerationsOfAll rest

end

/-- The symbols whose exports are kept up to date by every use of the name. -/
def exportedByDeclaration : Node → List Symbol
  | mk (.variableList ..) _ parts => boundSymbolsOfAll parts
  | mk (.enum ..) _ (name :: _) => name.symbol?.toList
  | mk (.namespace ..) _ (name :: _) => name.symbol?.toList
  | _ => []

mutual

/-- The exported symbols of a node within a namespace. -/
def exportedSymbols (space : Option Symbol) : Node → List (Symbol × Option Symbol)
  | mk .exportDeclaration _ [inner] =>
    inner.exportedSymbols space ++ inner.exportedByDeclaration.map (·, space)
  | mk (.namespace ..) _ [name, body] => body.exportedSymbols name.symbol?
  | mk .exportDefault _ [value] =>
    value.exportedSymbols space ++ value.symbol?.toList.map (·, space)
  | mk (.exportName _) _ (name :: _) => name.symbol?.toList.map (·, space)
  | mk _ _ parts => exportedSymbolsOfAll space parts

def exportedSymbolsOfAll (space : Option Symbol) :
    List Node → List (Symbol × Option Symbol)
  | [] => []
  | n :: rest => n.exportedSymbols space ++ exportedSymbolsOfAll space rest

end

/-- The symbols that a statement or an item declares as functions, classes, enumerations or
namespaces. -/
def ownSymbol? : Node → Option Symbol
  | mk (.functionDeclaration _) _ (name :: _) => name.symbol?
  | mk (.classDeclaration _) _ (name :: _) => name.symbol?
  | mk (.enum ..) _ (name :: _) => name.symbol?
  | mk (.namespace ..) _ (name :: _) => name.symbol?
  | mk .exportDeclaration _ [inner] => inner.ownSymbol?
  | mk .exportDefaultDeclaration _ [inner] => inner.ownSymbol?
  | _ => none

/-- The enumeration or namespace that a statement or an item is, and whether it is exported. -/
def filled? : Node → Option (Symbol × Bool)
  | mk (.enum ..) _ (name :: _) => name.symbol?.map (·, false)
  | mk (.namespace ..) _ (name :: _) => name.symbol?.map (·, false)
  | mk .exportDeclaration _ [inner] => inner.filled?.map fun (i, _) => (i, true)
  | _ => none

end Node

namespace Knowledge

def ofItems (items : List Node) : Knowledge where
  enumerations := Enumerations.collectAll ⟨[]⟩ items
  constant := Node.constantEnumerationsOfAll items
  exported := Node.exportedSymbolsOfAll none items

/-- What a name stands for inside the namespace that exports it. -/
def exportedAs? (k : Knowledge) (name : Symbol) : Option Node :=
  match k.exported.lookup name with
  | some (some space) => some (Node.access (Node.ofSymbol space) name.1)
  | _ => none

/-- Whether nothing but constants is left of an enumeration. -/
def isInlined (k : Knowledge) (enum : Symbol) (isExported : Bool) : Bool :=
  k.constant.contains enum && !isExported && (k.exported.lookup enum).isNone

end Knowledge

namespace Lowering

open Node

/-- The object in a place, which is made if there is none. -/
def orNew (place : Node) : Node := mk (.binary "||") 0 [place, assign place (object [])]

/-- The object that a function fills: one that is there already, else a new one; an exported one is
a property of its namespace too. -/
def filledObject (space : Option Symbol) (isExported : Bool) (name : Symbol) : Node :=
  match space, isExported with
  | some outer, true => assign (ofSymbol name) (orNew (access (ofSymbol outer) name.1))
  | _, _ => orNew (ofSymbol name)

/-- A function with one parameter that is called at once. -/
def fill (name : Symbol) (statements : List Node) (argument : Node) : Node :=
  let function := mk (.function false false) 0
    [mk .parameters 0 [ofSymbol name], block statements]
  Node.statement (call (mk .functionExpression 0 [absent, function]) [argument])

/-- The assignment that makes a member of an enumeration. -/
def makeMember (enum : Symbol) (member : String) (value : MemberValue) : Node :=
  let at_ (key : Node) : Node := mk (.index false) 0 [ofSymbol enum, key]
  let set := assign (at_ (text member)) value.node
  Node.statement (match value with
    | .text _ => set
    | _ => assign (at_ set) (text member))

/-- The statements for an enumeration, apart from its variable. -/
def enumeration (k : Knowledge) (space : Option Symbol) (isExported : Bool) (enum : Symbol)
    (members : List Node) : List Node :=
  let isInlined := k.isInlined enum isExported
  let valued := members.map fun m =>
    (m.enumeratorName, (k.enumerations.find? enum m.enumeratorName).getD .missing)
  let written := valued.filter fun (_, value) => !(isInlined && value.isConstant)
  if isInlined && written.isEmpty then []
  else
    [fill enum (written.map fun (name, value) => makeMember enum name value)
      (filledObject space isExported enum)]

/-- The variable for an enumeration or a namespace, if nothing before it has declared it. -/
def declareFirst (space : Option Symbol) (before : List Node) (n : Node) : List Node :=
  match n.filled? with
  | none => []
  | some (name, isExported) =>
    if before.any (·.ownSymbol? == some name) then []
    else
      let declared :=
        declaration (if name.2 = .scope 0 then .var else .let) (ofSymbol name) absent
      if isExported && space.isNone then [mk .exportDeclaration 0 [declared]] else [declared]

/-- What the target of an alias is as an expression. -/
def aliasTarget : Node → Node
  | mk .external _ [source] => call (leaf (.identifier "require" .unresolved)) [source]
  | n => n

/-- What an exported declaration in a namespace becomes. -/
def exportInto (space : Symbol) : List Node → List Node
  | mk (.variableList ..) _ declarators :: rest =>
    let assignments := declarators.filterMap fun
      | mk .declarator _ [pattern, value] =>
        if value.isAbsent then none else some (assign pattern value)
      | _ => none
    (if assignments.isEmpty then [] else [Node.statement (sequenceOf assignments)]) ++ rest
  | declaration :: rest =>
    match declaration.ownSymbol? with
    | some name =>
      declaration :: Node.statement
        (assign (access (ofSymbol space) name.1) (ofSymbol name)) :: rest
    | none => declaration :: rest
  | [] => []

mutual

/-- The nodes that stand for a node inside a namespace, if it is inside one. -/
def lower (k : Knowledge) (space : Option Symbol) : Node → List Node
  | mk (.identifier name mark) offset parts =>
    [(k.exportedAs? (name, mark)).getD (mk (.identifier name mark) offset parts)]
  | mk .shorthand offset [name, value] =>
    let value := (lower k space value).headD absent
    match name.symbol?.bind k.exportedAs? with
    | none => [mk .shorthand offset [name, value]]
    | some place =>
      let key := word (name.name?.getD "")
      if value.isAbsent then [mk .property offset [key, place]]
      else [mk .property offset [key, mk .defaulted 0 [place, value]]]
  | mk (.assign operator) offset [mk (.member isOptional) place parts, value] =>
    [mk (.assign operator) offset
      (mk (.member isOptional) place (lowerAll k parts) :: lower k space value)]
  | mk (.assign operator) offset [mk (.index isOptional) place parts, value] =>
    [mk (.assign operator) offset
      (mk (.index isOptional) place (lowerAll k parts) :: lower k space value)]
  | mk (.update operator isPrefix) offset [mk (.member isOptional) place parts] =>
    [mk (.update operator isPrefix) offset [mk (.member isOptional) place (lowerAll k parts)]]
  | mk (.update operator isPrefix) offset [mk (.index isOptional) place parts] =>
    [mk (.update operator isPrefix) offset [mk (.index isOptional) place (lowerAll k parts)]]
  | mk (.functionDeclaration isDeclared) offset [name, function] =>
    [mk (.functionDeclaration isDeclared) offset (name :: lower k none function)]
  | mk (.classDeclaration isDeclared) offset [name, body] =>
    [mk (.classDeclaration isDeclared) offset (name :: lower k none body)]
  | mk (.enum ..) _ (name :: members) =>
    match name.symbol? with
    | some enum => enumeration k space false enum members
    | none => []
  | mk (.namespace ..) _ [name, body] =>
    match name.symbol? with
    | some inner => [fill inner (lowerBody k inner body) (filledObject space false inner)]
    | none => []
  | mk .exportDeclaration _ [mk (.enum ..) _ (name :: members)] =>
    match name.symbol? with
    | some enum => enumeration k space true enum members
    | none => []
  | mk .exportDeclaration _ [mk (.namespace ..) _ [name, body]] =>
    match name.symbol? with
    | some inner => [fill inner (lowerBody k inner body) (filledObject space true inner)]
    | none => []
  | mk .exportDeclaration offset [inner] =>
    let lowered := lower k space inner
    match space with
    | some outer => exportInto outer lowered
    | none => [mk .exportDeclaration offset lowered]
  | mk (.alias isExported _) offset [name, target] =>
    match space, isExported with
    | some outer, true =>
      [Node.statement (assign (access (ofSymbol outer) (name.name?.getD "")) target)]
    | none, true =>
      let value := match target with
        | mk .external .. =>
          assign (access (leaf (.identifier "exports" .unresolved)) (name.name?.getD ""))
            (aliasTarget target)
        | _ => target
      let constant := declaration .const name value
      [if target.kind == .external then constant else mk .exportDeclaration offset [constant]]
    | _, false => [declaration .const name (aliasTarget target)]
  | mk .block offset statements => [mk .block offset (lowerList k none [] statements)]
  | mk .case offset (test :: statements) =>
    [mk .case offset (lower k none test ++ lowerList k none [] statements)]
  | mk .classBody offset (base :: ms) =>
    [mk .classBody offset (lower k none base ++ ParameterProperties.members (lowerAll k ms))]
  | mk kind offset parts =>
    let whole := mk kind offset parts
    match whole.namedAccess?.bind fun (enum, key) => k.enumerations.constant? enum key with
    | some value => [value.node]
    | none => [mk kind offset (lowerAll k parts)]

/-- The statements that fill a namespace. A namespace right inside of it comes from a name with
dots. -/
def lowerBody (k : Knowledge) (space : Symbol) : Node → List Node
  | mk .namespaceBlock _ items => lowerList k (some space) [] items
  | mk (.namespace ..) _ [name, body] =>
    match name.symbol? with
    | some inner =>
      [fill inner (lowerBody k inner body) (orNew (access (ofSymbol space) inner.1))]
    | none => []
  | _ => []

def lowerAll (k : Knowledge) : List Node → List Node
  | [] => []
  | n :: rest => lower k none n ++ lowerAll k rest

/-- The statements or items for a list of them, of which some come before. -/
def lowerList (k : Knowledge) (space : Option Symbol) (before : List Node) :
    List Node → List Node
  | [] => []
  | n :: rest =>
    declareFirst space before n ++ lower k space n ++ lowerList k space (n :: before) rest

end

/-- Items without what plain scripts do not have. What is assigned to be all that a module exports
is assigned at its end. -/
def lowerItems (items : List Node) : List Node :=
  let lowered := lowerList (.ofItems items) none [] items
  let isAssignment (n : Node) : Bool := n.kind == .exportAssignment
  let exports := (lowered.find? isAssignment).map fun n =>
    Node.statement (assign (access (leaf (.identifier "module" .unresolved)) "exports")
      (n.parts.headD absent))
  lowered.filter (!isAssignment ·) ++ exports.toList

end Lowering

namespace Module

/-- A module as a plain script: without types, and without what only scripts with types have. A
module that is known as one by its imports and exports stays one. -/
def plain (m : Module) : Module :=
  let usage := Usage.ofItems m.items
  let needed := m.items.filterMap fun n => (usage.keep? n).map Node.withoutTypeAliases
  let items := Lowering.lowerItems (Node.keptWithoutTypes needed)
  let isLinked := m.items.any Node.linksModules && !items.any Node.linksModules
  let mark : Node := .mk (.exportNames false) 0 [.absent, .absent]
  { m with items := items ++ if isLinked then [mark] else [] }

end Module

end ScriptBundle.Script
