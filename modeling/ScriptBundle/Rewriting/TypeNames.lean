import ScriptBundle.Rewriting.Forms

/-! The names of a module that are only types: those of interfaces, aliases of types, declarations
of what is elsewhere and imports of types, unless a value has the same name. -/
namespace ScriptBundle.Rewriting

open Script

/-- The names that a declaration makes known; those in patterns do not count. -/
def declaredNames : Node → List String
  | .mk (.variableList ..) _ declarators =>
    declarators.filterMap fun
      | .mk .declarator _ (pattern :: _) => pattern.name?
      | _ => none
  | .mk kind _ (name :: _) =>
    match kind with
    | .interface | .typeAlias | .functionDeclaration _ | .classDeclaration _ | .enum ..
    | .namespace .. => name.name?.toList
    | _ => []
  | _ => []

/-- A name that an import binds, and whether it is only a type. -/
def importedName? (isTypeOnly : Bool) : Node → Option (String × Bool)
  | .mk (.importNamed isType) _ [_, name] => name.name?.map (·, isTypeOnly || isType)
  | .mk _ _ [name] => name.name?.map (·, isTypeOnly)
  | _ => none

/-- The names that an item makes known, each with whether it is only a type there. -/
def knownNames : Node → List (String × Bool)
  | .mk (.import isTypeOnly) _ (_ :: _ :: specifiers) =>
    specifiers.filterMap (importedName? isTypeOnly)
  | .mk .exportDeclaration _ [declaration] =>
    (declaredNames declaration).map (·, isTypeLevel declaration)
  | n => (declaredNames n).map (·, isTypeLevel n)

/-- The names of a module that are only types. -/
def typeOnlyNames (items : List Node) : List String :=
  let known := items.flatMap knownNames
  let values := (known.filter (!·.2)).map (·.1)
  ((known.filter (·.2)).map (·.1)).filter (!values.contains ·)

end ScriptBundle.Rewriting
