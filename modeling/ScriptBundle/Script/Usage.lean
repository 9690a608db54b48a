import ScriptBundle.Script.Scopes

/-! Which names of a module stand for values. Imports that only types use are dropped, and so are
exports of names that are only types. -/
namespace ScriptBundle.Script

namespace Node

/-- The identity at the front of a name with dots. -/
def frontSymbol? : Node → Option Symbol
  | mk (.identifier name mark) _ _ => some (name, mark)
  | mk (.member _) _ (object :: _) => object.frontSymbol?
  | _ => none

mutual

/-- The symbols that a node uses or declares, not counting what stands in types and imports. -/
def symbols : Node → List Symbol
  | mk (.identifier name mark) _ _ => [(name, mark)]
  | mk (.alias isExported isTypeOnly) _ [name, target] =>
    if isExported && !isTypeOnly && !(target.kind == .external) then
      name.symbols ++ target.frontSymbol?.toList
    else []
  | mk (.exportNames isTypeOnly) _ (source :: _ :: names) =>
    if isTypeOnly || !source.isAbsent then [] else symbolsOfAll names
  | mk (.exportName isTypeOnly) _ (name :: _) => if isTypeOnly then [] else name.symbols
  | mk kind _ parts =>
    match kind with
    | .import _ | .interface | .typeAlias | .erasedMember | .external | .types _ => []
    | _ => symbolsOfAll parts

def symbolsOfAll : List Node → List Symbol
  | [] => []
  | n :: rest => n.symbols ++ symbolsOfAll rest

end

/-- The identity of an alias that is not exported, and of what it is an alias of. -/
def aliasLink? : Node → Option (Symbol × Symbol)
  | mk (.alias false false) _ [name, target] =>
    match name.symbol?, target.frontSymbol? with
    | some new, some old => some (new, old)
    | _, _ => none
  | _ => none

/-- The names that an item makes known as types. -/
def typeNames : Node → List String
  | mk .interface _ (name :: _) => name.name?.toList
  | mk .typeAlias _ (name :: _) => name.name?.toList
  | mk .exportDeclaration _ [inner] => inner.typeNames
  | mk .exportDefaultDeclaration _ [inner] => inner.typeNames
  | mk (.import isTypeOnly) _ (_ :: _ :: names) =>
    names.filterMap fun
      | mk (.importNamed isType) _ [_, name] => if isTypeOnly || isType then name.name? else none
      | mk _ _ [name] => if isTypeOnly then name.name? else none
      | _ => none
  | mk (.alias _ true) _ (name :: _) => name.name?.toList
  | _ => []

/-- The names that an item makes known as values. -/
def valueNames : Node → List String
  | mk (.functionDeclaration _) _ (name :: _) => name.name?.toList
  | mk (.classDeclaration _) _ (name :: _) => name.name?.toList
  | mk (.enum ..) _ (name :: _) => name.name?.toList
  | mk (.namespace ..) _ (name :: _) => name.name?.toList
  | mk (.variableList ..) _ declarators => boundNamesOfAll declarators
  | mk (.using _) _ declarators => boundNamesOfAll declarators
  | mk .exportDeclaration _ [inner] => inner.valueNames
  | mk .exportDefaultDeclaration _ [inner] => inner.valueNames
  | mk (.import isTypeOnly) _ (_ :: _ :: names) =>
    names.filterMap fun
      | mk (.importNamed isType) _ [_, name] => if isTypeOnly || isType then none else name.name?
      | mk _ _ [name] => if isTypeOnly then none else name.name?
      | _ => none
  | mk (.alias _ false) _ (name :: _) => name.name?.toList
  | _ => []

/-- Whether an item has to do with what other modules see or provide. -/
def linksModules : Node → Bool
  | mk kind _ _ =>
    match kind with
    | .import _ | .exportNames _ | .exportAll _ | .exportDeclaration | .exportDefault
    | .exportDefaultDeclaration => true
    | _ => false

end Node

/-- What a list of items says about its names. -/
structure Usage where
  used : List Symbol
  types : List String
  values : List String

namespace Usage

/-- Adds what the aliases among the items stand for, as far as the aliases are used themselves. -/
def follow : List (Symbol × Symbol) → List Symbol → Nat → List Symbol
  | _, used, 0 => used
  | links, used, fuel + 1 =>
    let (open_, closed) := links.partition (used.contains ·.1)
    if open_.isEmpty then used else follow closed (open_.map (·.2) ++ used) fuel

def ofItems (items : List Node) : Usage where
  used :=
    let links := items.filterMap Node.aliasLink?
    follow links (Node.symbolsOfAll items) links.length
  types := items.flatMap Node.typeNames
  values := items.flatMap Node.valueNames

/-- Whether a name of the module's own scope is only a type. -/
def isType (usage : Usage) (name : Node) : Bool :=
  match name.name? with
  | some name => usage.types.contains name && !usage.values.contains name
  | none => false

def isUsed (usage : Usage) (name : Node) : Bool := name.symbol?.any usage.used.contains

/-- Whether a name that an import binds is needed when types are gone. -/
def keepsImported (usage : Usage) : Node → Bool
  | .mk (.importNamed isType) _ [_, name] => !isType && usage.isUsed name
  | .mk _ _ [name] => usage.isUsed name
  | _ => true

/-- Whether an exported name is there when types are gone. -/
def keepsExported (usage : Usage) (hasSource : Bool) : Node → Bool
  | .mk (.exportName isType) _ (name :: _) => !isType && (hasSource || !usage.isType name)
  | _ => true

/-- An item without the names that only types use, if anything is left of it. -/
def keep? (usage : Usage) : Node → Option Node
  | .mk (.import isTypeOnly) offset (source :: attributes :: names) =>
    let kept := names.filter usage.keepsImported
    if isTypeOnly || (kept.isEmpty && !names.isEmpty) then none
    else some (.mk (.import isTypeOnly) offset (source :: attributes :: kept))
  | .mk (.exportNames isTypeOnly) offset (source :: attributes :: names) =>
    let kept := names.filter (usage.keepsExported !source.isAbsent)
    if isTypeOnly || kept.isEmpty then none
    else some (.mk (.exportNames isTypeOnly) offset (source :: attributes :: kept))
  | .mk (.exportAll isTypeOnly) offset parts =>
    if isTypeOnly then none else some (.mk (.exportAll isTypeOnly) offset parts)
  | .mk .exportDefault offset [value] =>
    if usage.isType value then none else some (.mk .exportDefault offset [value])
  | .mk (.alias isExported isTypeOnly) offset [name, target] =>
    if isTypeOnly || !(isExported || usage.isUsed name) then none
    else some (.mk (.alias isExported isTypeOnly) offset [name, target])
  | n => some n

end Usage

namespace Node

mutual

/-- A namespace without the aliases that only types use. -/
def withoutTypeAliases : Node → Node
  | mk .namespaceBlock offset items =>
    let usage := Usage.ofItems items
    mk .namespaceBlock offset (withoutTypeAliasesOfAll usage items)
  | mk (.namespace isDeclared isGlobal) offset [name, body] =>
    mk (.namespace isDeclared isGlobal) offset [name, body.withoutTypeAliases]
  | mk .exportDeclaration offset [inner] => mk .exportDeclaration offset [inner.withoutTypeAliases]
  | n => n

def withoutTypeAliasesOfAll (usage : Usage) : List Node → List Node
  | [] => []
  | n :: rest =>
    let rest := withoutTypeAliasesOfAll usage rest
    let n' := n.withoutTypeAliases
    match n.kind with
    | .alias .. => (usage.keep? n').toList ++ rest
    | _ => n' :: rest

end

end Node

end ScriptBundle.Script
