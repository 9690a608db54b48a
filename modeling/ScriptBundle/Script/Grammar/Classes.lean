import ScriptBundle.Script.Grammar.Functions

/-! Classes: what they extend, and their members. A member's name may be a word that elsewhere is a
modifier, which only the token after it decides. -/
namespace ScriptBundle.Script.P

variable (parse : Reader)

/-- What was read of a member before its name. -/
structure MemberHead where
  start : Nat
  /-- The member is said to be public, protected or private. -/
  hasAccess : Bool
  declareAt : Option Nat
  staticAt : Option Nat
  isStatic : Bool
  isAccessor : Bool
  isAbstract : Bool
  isOverride : Bool
  readonlyAt : Option Nat
  /-- Where the last of the modifiers stands that may come in any order. -/
  modifierAt : Option Nat

namespace MemberHead

def ofStart (start : Nat) (hasAccess : Bool) : MemberHead where
  start := start
  hasAccess := hasAccess
  declareAt := none
  staticAt := none
  isStatic := false
  isAccessor := false
  isAbstract := false
  isOverride := false
  readonlyAt := none
  modifierAt := none

def modifiers (head : MemberHead) : Modifiers where
  isStatic := head.isStatic
  isAbstract := head.isAbstract
  isDeclared := head.declareAt.isSome

end MemberHead

/-- Whether the name of a method was just read. -/
def endsMethodName : P Bool := isAnySign ["(", "<"]

/-- Whether the name of a field was just read. -/
def endsFieldName (orLine : Bool) : P Bool := do
  if ← isAnySign ["!", ":", "=", "\x7d"] then return true
  if orLine then endsStatement else isSign ";"

def isConstructorName : Node → Bool
  | .mk (.word "constructor") _ _ => true
  | .mk (.string "constructor" _) _ _ => true
  | _ => false

def isPrivate (key : Node) : Bool :=
  match key.kind with
  | .privateName _ => true
  | _ => false

/-- The name of a class member. -/
def memberKey : P Node := do
  if ← isSign "#" then
    let key ← memberName
    if key.kind == .privateName "constructor" then note .constructorPrivate key.offset
    return key
  else propertyKey parse

/-- A method after its name. -/
def method (head : MemberHead) (key : Node) (kind : MethodKind) (isAsync isGenerator : Bool) :
    P Node := do
  let readParameters := match kind with
    | .plain => parameters parse
    | .getter => accessorParameters parse true key.offset
    | .setter => accessorParameters parse false key.offset
  let function ← within (fun c => { c with inField := false })
    (functionParts parse isAsync isGenerator readParameters)
  if isPrivate key then
    if head.hasAccess then note .privateAccess head.start
  else
    if head.isAbstract && !function.body.isAbsent then note .abstractBody head.start
    if kind ≠ .plain && function.isGeneric then note .accessorTypeParameters key.offset
    if kind = .setter && function.hasResult then note .setterResult key.offset
  return .mk (.classMethod head.modifiers kind) head.start [key, function.function]

/-- A field after its name and the question mark that may follow it. -/
def field (head : MemberHead) (key : Node) (isOptional : Bool) : P Node := do
  if isConstructorName key then fail .constructorField key.offset
  if isPrivate key then
    if head.declareAt.isSome then note (.privateModifier "declare") key.offset
    if head.isAbstract then note (.privateModifier "abstract") key.offset
  if !isOptional then
    let _ ← eatSign "!"
  let (_, types) ← keepingTypes (annotation? parse)
  within (fun c => { c with allowsIn := true, inField := true }) do
    let value ← if ← eatSign "=" then parse .assignment else pure .absent
    if !(← eatSemicolon) then noteHere .missingSemicolon
    if isPrivate key then
      if head.hasAccess then note .privateAccess head.start
    else if head.isAbstract && !value.isAbsent then note .abstractValue head.start
    return .mk (.field head.modifiers head.isAccessor) head.start (key :: value :: types)

/-- A parameter of a constructor, which may also declare a field. -/
def constructorParameter : P Node := do
  let start ← position
  let access ← modifier? ["public", "protected", "private"] false
  let override ← modifier? ["override"] false
  let readonly ← modifier? ["readonly"] false
  let pattern ← parameterPattern parse start
  if access.isNone && override.isNone && readonly.isNone then return pattern
  match pattern with
  | .mk (.identifier ..) _ _ | .mk .defaulted _ [.mk (.identifier ..) _ _, _] =>
    return .mk .parameterProperty start [pattern]
  | _ => fail .parameterPropertyPattern pattern.offset

/-- The type parameters that a constructor may not have. -/
def constructorTypeParameters : P Unit := do
  if ← isSign "<" then
    let start ← position
    let _ ← keepingTypes (typeParameters parse)
    note .constructorTypeParameters (start + 1)

/-- A constructor after its name. -/
def constructor (head : MemberHead) (key : Node) : P Node := do
  if head.isOverride then note (.constructorModifier "override") head.start
  constructorTypeParameters parse
  expectSign "("
  let parameters ← parameterList parse (constructorParameter parse)
  expectSign ")"
  if ← isSign ":" then
    let _ ← bump
    let place ← position
    let _ ← keepingTypes (type parse)
    note .constructorResult place
  let body ← functionBody false false false (blockBody parse (areSimple parameters))
  if body.isAbsent then
    for parameter in parameters.parts do
      if parameter.kind == .parameterProperty then note .parameterProperty parameter.offset
  if let some place := head.staticAt then note (.constructorModifier "static") place
  if head.isAbstract then
    if let some place := head.modifierAt then note .abstractHere place
  return .mk .constructor head.start [key, parameters, body]

/-- A member whose name is a word that was first taken for a modifier, if it is one. -/
def memberNamed? (head : MemberHead) (text : String) (place : Nat) : P (Option Node) := do
  let key := Node.mk (.word text) place []
  if ← endsMethodName then return some (← method parse head key .plain false false)
  if (← isSign "?") || (← endsFieldName true) && !(← isSign "\x7b") then
    let isOptional ← eatSign "?"
    if isOptional && (← endsMethodName) then
      return some (← method parse head key .plain false false)
    return some (← field parse head key isOptional)
  return none

/-- The modifiers that may come in any order. -/
def modifiers (head : MemberHead) : P MemberHead := do
  let mut head := head
  for _ in [0 : ← bound] do
    let some word ← modifier? ["abstract", "readonly", "override", "static"] true | break
    let place ← previousStart
    match word with
    | "static" =>
      if head.isOverride then note (.modifierOrder "static" "override") place
      head := { head with isStatic := true }
    | "override" =>
      if head.isOverride then note (.modifierTwice "override") place
      else if head.readonlyAt.isSome then note (.modifierOrder "override" "readonly") place
      else if head.declareAt.isSome then note (.modifierWith "override" "declare") place
      else if !(← context).hasBase then note .overrideWithoutBase place
      head := { head with isOverride := true }
    | "readonly" =>
      if head.readonlyAt.isSome then note (.modifierTwice "readonly") place
      else head := { head with readonlyAt := some place }
    | _ =>
      if head.isAbstract then note (.modifierTwice "abstract") place
      else if head.isOverride then note (.modifierOrder "abstract" "override") place
      else if head.readonlyAt.isSome then note (.modifierOrder "abstract" "readonly") place
      head := { head with isAbstract := true }
    head := { head with modifierAt := some place }
  return head

/-- A block that runs when the class is made. -/
def staticBlock (head : MemberHead) : P Node := do
  for place in [head.modifierAt, head.declareAt] do
    if let some place := place then note .modifierHere place
  if head.hasAccess then noteHere .modifierHere
  let body ← within (fun c => { c with inStaticBlock := true, inField := true, allowsUsing := true })
    (block parse)
  return .mk .staticBlock head.start [body]

/-- A method whose name follows a word that says what kind of method it is. -/
def prefixedMethod (head : MemberHead) (word : Node) (kind : MethodKind) (isAsync : Bool)
    (isOptional : Bool) : P Node := do
  let isGenerator ← if isAsync then eatSign "*" else pure false
  let key ← memberKey parse
  if isAsync then
    if isConstructorName key then fail .constructorAsync key.offset
    if head.readonlyAt.isSome then fail .readonlyMethod head.start
    if !isOptional then
      let _ ← eatSign "?"
    method parse head key .plain true isGenerator
  else
    if head.readonlyAt.isSome then note .accessorReadonly word.offset
    if isConstructorName key then note .constructorAccessor word.offset
    method parse head key kind false false

/-- A member after its modifiers. -/
def memberAfterModifiers (head : MemberHead) : P Node := do
  if !head.isAbstract && !head.isOverride && !head.hasAccess then
    if ← isSign "[" then
      let (isSignature, types) ← keepingTypes (indexSignature? parse)
      if isSignature then return .mk .erasedMember head.start types
  if ← eatSign "*" then
    let key ← memberKey parse
    if head.readonlyAt.isSome then note .readonlyMethod head.start
    if isConstructorName key then note .constructorGenerator head.start
    return ← method parse head key .plain false true
  let key ← memberKey parse
  let isOptional ← eatSign "?"
  if ← endsMethodName then
    if let some place := head.declareAt then note .declareOnElement place
    if head.readonlyAt.isSome then fail .readonlyMethod head.start
    if isConstructorName key then return ← constructor parse head key
    else return ← method parse head key .plain false false
  let accessor : Option MethodKind := match key.kind with
    | .word "get" => some .getter
    | .word "set" => some .setter
    | _ => none
  let accessor ← do
    if (← endsFieldName false) || ((← isAfterLine) && (← isSign "*")) then pure none
    else pure accessor
  if accessor.isNone && (← endsFieldName true) then return ← field parse head key isOptional
  if key.kind == .word "async" && !(← isAfterLine) then
    return ← prefixedMethod parse head key .plain true isOptional
  match accessor with
  | some kind => prefixedMethod parse head key kind false isOptional
  | none => unexpected "* for generator, private key, identifier or async"

/-- A member of a class. -/
def member : P Node := do
  let start ← position
  let declareAt : Option Nat := if ← eatWord "declare" then some start else none
  let access ← modifier? ["public", "protected", "private"] false
  let declareAt ← do
    let place ← position
    if declareAt.isNone && (← eatWord "declare") then pure (some place) else pure declareAt
  let head := MemberHead.ofStart start access.isSome
  if let some place := declareAt then
    if let some found ← memberNamed? parse head "declare" place then return found
  let head := { head with declareAt := declareAt }
  let place ← position
  let staticAt : Option Nat := if ← eatWord "static" then some place else none
  let place ← position
  let isAccessor ← eatWord "accessor"
  let head := { head with
    staticAt := staticAt
    isStatic := staticAt.isSome }
  if isAccessor then
    if let some found ← memberNamed? parse head "accessor" place then return found
  else if let some place := staticAt then
    let plain := { head with
      staticAt := none
      isStatic := false }
    if let some found ← memberNamed? parse plain "static" place then return found
  let head ← modifiers { head with isAccessor := isAccessor }
  if head.isStatic && (← isSign "\x7b") then return ← staticBlock parse head
  if (← isWord "static") && (← next (isSign "\x7b")) then
    let _ ← bump
    return ← staticBlock parse head
  memberAfterModifiers parse head

/-- The members of a class up to its closing brace. -/
def members : P (List Node) := do
  let mut found := #[]
  let mut hasConstructor := false
  for _ in [0 : ← bound] do
    if (← atEnd) || (← isSign "\x7d") then break
    let start ← position
    if ← eatSign ";" then
      found := found.push (.mk .emptyMember start [])
      continue
    let one ← within (fun c => { c with allowsSuper := true }) (member parse)
    if !(← context).inAmbient then
      if let .mk .constructor place [_, _, body] := one then
        if !body.isAbsent then
          if hasConstructor then note .duplicateConstructor place
          hasConstructor := true
    found := found.push one
  return found.toList

/-- The class that another one extends. What is left of its type arguments counts as a type. -/
def baseClass : P Node := do
  match ← parse .leftHandSide with
  | .mk .cast _ (inner :: types) =>
    keepInType types
    return inner
  | base =>
    if ← isSign "<" then typeArguments parse
    return base

/-- What may follow the name of a class: its base, and types, of which there are its type parameters and
what it implements. -/
def classHeritage : P Node := do
  let _ ← typeParameters? parse
  let base ← if ← eatWord "extends" then do
      let base ← baseClass parse
      if ← eatSign "," then
        let place ← position
        heritage parse
        note .extendsMany place
      pure base
    else pure .absent
  if ← eatWord "extends" then
    note .extendsTwice (← previousStart)
    let _ ← baseClass parse
  if ← eatWord "implements" then heritage parse
  if ← eatWord "implements" then
    note .implementsTwice (← previousStart)
    heritage parse
  if ← eatWord "extends" then
    note .extendsLate (← previousStart)
    let late ← baseClass parse
    return if base.isAbsent then late else base
  return base

def isAbstractMember : Node → Bool
  | .mk (.field modifiers _) _ _ => modifiers.isAbstract
  | .mk (.classMethod modifiers _) _ _ => modifiers.isAbstract
  | _ => false

/-- A class from its keyword on: its name, if it has one, and its body. -/
def classFrom (needsName isAbstract : Bool) : P (Node × Node) := do
  expectWord "class"
  let name ← if needsName then boundName
    else if ← isReference then boundName
    else pure .absent
  if ["string", "null", "number", "object", "any", "unknown", "boolean", "bigint", "symbol",
      "void", "never", "intrinsic"].contains (name.name?.getD "") then
    note .className name.offset
  let (base, types) ← keepingTypes (classHeritage parse)
  let start ← position
  expectSign "\x7b"
  let found ← within (fun c => { c with inClass := true, hasBase := !base.isAbsent })
    (members parse)
  if ← atEnd then noteHere (.expected "\x7d" (← shown))
  expectSign "\x7d"
  if !isAbstract then
    for one in found do
      if isAbstractMember one then note .abstractOutside one.offset
  let base := if types.isEmpty then base else base.cast types
  return (name, .mk .classBody start (base :: found))

/-- A class as a declaration. -/
def classDeclaration (start : Nat) (isAbstract isDeclared : Bool) : P Node := do
  let (name, body) ← classFrom parse true isAbstract
  return .mk (.classDeclaration isDeclared) start [name, body]

/-- A class as an expression. -/
def classExpression : P Node := do
  let start ← position
  let (name, body) ← classFrom parse false false
  return .mk .classExpression start [name, body]

end ScriptBundle.Script.P
