import ScriptBundle.Script.Grammar.Patterns

/-! Types. They are read to know where they end and what is wrong with them. What is kept of them are the
names that they bind and the expressions in them: names of members that have to be computed, patterns
of parameters and whatever is inherited from. -/
namespace ScriptBundle.Script.P

variable (parse : Reader)

def erased (p : P Unit) : P Node := do
  let start ← position
  p
  return .mk .erasedMember start []

/-- A reference to a declaration, with the names of the namespaces around it. -/
def entityName (allowsReserved : Bool) : P Node := do
  let start ← position
  let mut entity := Node.mk (.identifier (← anyName) .unknown) start []
  for _ in [0 : ← bound] do
    if !(← eatSign ".") then break
    let place ← position
    if !(← isSign "#") && !(← isName) then
      note .identifierMissing place
      break
    let part ← if allowsReserved then word else do
      let place ← position
      pure (Node.mk (.word (← identifierText false)) place [])
    entity := .mk (.member false) start [entity, part]
  return entity

/-- Parameters of a signature, with their parentheses. -/
def signatureParameters : P Unit := do
  expectSign "("
  let found ← parameters parse
  if found.parts.any (·.kind == .defaulted) then
    unexpected ("an identifier, [ for an array pattern, \x7b for an object patter or ... for a " ++
      "rest pattern")
  keepInType (found.parts.filter (!·.parts.isEmpty))
  expectSign ")"

/-- A function's or a constructor's type. -/
def functionType (isFunction : Bool) : P Unit := enclosed do
  if !isFunction then
    let _ ← eatWord "abstract"
    expectWord "new"
  let (_, constraints) ← withTypeExpressions (typeParameters? parse)
  signatureParameters parse
  keepInType constraints
  resultType parse "=>"

/-- Whether an opening parenthesis begins the type of a function. -/
def beginsFunctionType : P Bool := do
  if ← isSign "<" then return true
  if !(← isSign "(") then return false
  foresees do
    let _ ← bump
    if ← isAnySign [")", "..."] then return true
    let _ ← parameterModifier
    let isParameter ←
      if ← isName then
        let _ ← bump
        pure true
      else if ← isAnySign ["\x7b", "["] then
        let _ ← parse .bindingTarget
        pure true
      else pure false
    if !isParameter then return false
    if ← isAnySign [":", ",", "?", "="] then return true
    return (← eatSign ")") && (← isSign "=>")

/-- A type that is no conditional type. -/
def plainType : P Node := erased do
  if ← beginsFunctionType parse then functionType parse true
  else if (← isWord "new") || ((← isWord "abstract") && (← next (isWord "new"))) then
    functionType parse false
  else
    let _ ← eatSign "|"
    for _ in [0 : ← bound] do
      let _ ← eatSign "&"
      for _ in [0 : ← bound] do
        let _ ← parse .typeOperator
        if !(← eatSign "&") then break
      if !(← eatSign "|") then break

def anyType : P Node := erased <| within (fun c => { c with forbidsConditionalType := false }) do
  let _ ← parse .plainType
  if (← isAfterLine) || !(← eatWord "extends") then return
  within (fun c => { c with forbidsConditionalType := true }) do let _ ← parse .plainType
  expectSign "?"
  let _ ← parse .type
  expectSign ":"
  let _ ← parse .type

/-- The arguments of a generic name, if they follow on the same line. -/
def typeArguments? : P Unit := do
  if !(← isAfterLine) && (← isAnySign ["<", "<<"]) then typeArguments parse

def importType : P Unit := do
  let _ ← bump
  expectSign "("
  if !(← isString) then unexpected "a string literal"
  let _ ← bump
  let attributes ← if ← eatSign "," then pure [← parse .assignment] else pure []
  expectSign ")"
  if ← eatSign "." then
    let _ ← entityName false
  if ← isSign "<" then typeArguments parse
  keepInType attributes

def typeQuery : P Unit := do
  let _ ← bump
  if ← isWord "import" then importType parse
  else
    let _ ← entityName true
  typeArguments? parse

/-- The end of a member of a type. -/
def memberEnd : P Unit := do if !(← eatSign ",") then expectSemicolon

def optionalResult : P Unit := do if ← isSign ":" then resultType parse ":"

/-- A signature after the name it may have, which its type parameters stand around too. -/
def signature (key : List Node) : P Unit := enclosed do
  keepInType key
  let (_, constraints) ← withTypeExpressions (typeParameters? parse)
  signatureParameters parse
  optionalResult parse
  keepInType constraints
  memberEnd

/-- The name of a member of a type. -/
def typeMemberName : P Unit := do
  if ← eatSign "[" then
    keepInType [← within (fun c => { c with inType := false }) (parse .assignment)]
    expectSign "]"
  else
    match ← present with
    | .number _ | .string .. | .bigint _ => let _ ← bump
    | _ =>
      let start ← position
      let name ← memberName
      if let .mk (.privateName _) _ _ := name then note .privateNameUnexpected start

/-- An index signature, if one follows. -/
def indexSignature? : P Bool := do
  let isIndex ← do
    if ← isSign "[" then foresees do
      let _ ← bump
      if !(← isReference) then return false
      let _ ← bump
      isAnySign [":", ","]
    else pure false
  if !isIndex then return false
  let _ ← bump
  let start ← position
  let _ ← anyName
  if ← eatSign "," then note .indexParameter start
  else expectSign ":"
  type parse
  expectSign "]"
  let _ ← annotation? parse
  memberEnd
  return true

/-- An accessor in a type, if one follows. -/
def accessorSignature? : P Bool := do
  let found ← attempt do
    let isGetter ← eatWord "get"
    if !isGetter then expectWord "set"
    typeMemberName parse
    if isGetter then
      expectSign "("
      expectSign ")"
      let _ ← annotation? parse
    else
      signatureParameters parse
    memberEnd
    return some ()
  return found.isSome

def typeMember : P Unit := do
  if ← isAnySign ["(", "<"] then signature parse []
  else if (← isWord "new") && (← next (isAnySign ["(", "<"])) then
    let _ ← bump
    signature parse []
  else
    let _ ← present
    let isReadonly := (← modifier? ["readonly"] false).isSome
    if ← indexSignature? parse then return
    if ← (if isReadonly then pure false else accessorSignature? parse) then return
    let (_, key) ← withTypeExpressions (typeMemberName parse)
    let _ ← eatSign "?"
    if ← isAnySign ["(", "<"] then
      if isReadonly then failHere .readonlyMethod
      signature parse key
    else
      keepInType key
      let _ ← annotation? parse
      memberEnd

/-- The members of a type with their braces. -/
def typeMembers : P Unit := do
  expectSign "\x7b"
  for _ in [0 : ← bound] do
    if ← isSign "\x7d" then break
    typeMember parse
  expectSign "\x7d"

def beginsMappedType : P Bool := foresees do
  let _ ← bump
  if ← isAnySign ["+", "-"] then
    let _ ← bump
    return ← isWord "readonly"
  let _ ← eatWord "readonly"
  if !(← eatSign "[") then return false
  if !(← isReference) then return false
  let _ ← bump
  isWord "in"

def mappedType : P Unit := enclosed do
  expectSign "\x7b"
  if ← isAnySign ["+", "-"] then
    let _ ← bump
    expectWord "readonly"
  else
    let _ ← eatWord "readonly"
  expectSign "["
  keepTypeName (← anyName)
  expectWord "in"
  let _ ← parse .type
  if ← eatWord "as" then
    let _ ← parse .type
  expectSign "]"
  if ← isAnySign ["+", "-"] then
    let _ ← bump
    expectSign "?"
  else
    let _ ← eatSign "?"
  if ← eatSign ":" then
    let _ ← parse .type
  expectSemicolon
  expectSign "\x7d"

/-- How often an element of a tuple is present. -/
inductive Presence where
  | required
  | optional
  | repeated
  deriving DecidableEq

/-- An element of a tuple, with what its type says of its presence. The label says nothing. -/
def tupleElement : P Presence := do
  let _ ← attempt do
    let _ ← eatSign "..."
    let _ ← anyName
    let _ ← eatSign "?"
    expectSign ":"
    return some ()
  if ← eatSign "..." then
    let _ ← parse .type
    return .repeated
  let _ ← parse .type
  return if ← eatSign "?" then .optional else .required

/-- The elements of a tuple. None that is required may stand after one that is optional. -/
def tupleType : P Unit := do
  let start ← position
  expectSign "["
  let mut elements : List Presence := []
  for _ in [0 : ← bound] do
    if ← isSign "]" then break
    elements := (← tupleElement parse) :: elements
    if ← eatSign "," then continue
    if ← isSign "]" then break
    expectSign ","
  expectSign "]"
  let fromOptional := elements.reverse.dropWhile (· ≠ .optional)
  if fromOptional.contains .required then throw ⟨.requiredAfterOptional, start⟩

/-- A template as a type. -/
def templateType : P Unit := do
  let start ← position
  let _ ← bump
  for _ in [0 : ← bound] do
    let (_, _, ending) ← scan (Scan.chunk start)
    if ending = .quote then
      modify fun s => { s with previousStop := s.cursor.offset }
      break
    let _ ← parse .type
    expectSign "\x7d"

/-- A type without operators around it. -/
def operandType : P Unit := do
  let isThisPredicate ← do
    if ← isWord "asserts" then next (isWord "this") else pure false
  match ← present with
  | .word "import" => importType parse
  | .word "typeof" => typeQuery parse
  | .word "this" =>
    let _ ← bump
    if !(← isAfterLine) && (← eatWord "is") then
      let _ ← parse .type
  | .word text =>
    if isThisPredicate then
      let _ ← bump
      let _ ← bump
      if ← eatWord "is" then
        let _ ← parse .type
    else if ["true", "false", "void", "null"].contains text then
      let _ ← bump
    else if ["yield", "await", "break"].contains text || !keywords.contains text && text ≠ "let" then
      let _ ← entityName true
      typeArguments? parse
    else wrong
  | .string .. | .number _ | .bigint _ => let _ ← bump
  | .sign "`" => templateType parse
  | .sign "-" =>
    let _ ← bump
    match ← present with
    | .number _ | .bigint _ => let _ ← bump
    | _ => unexpected "numeric literal or bigint literal"
  | .sign "\x7b" => if ← beginsMappedType then mappedType parse else typeMembers parse
  | .sign "[" => tupleType parse
  | .sign "(" =>
    let _ ← bump
    let _ ← parse .type
    expectSign ")"
  | _ => wrong
where
  wrong : P Unit :=
    unexpected ("an identifier, void, yield, null, await, break, a string literal, " ++
      "a numeric literal, true, false, `, -, import, this, typeof, \x7b, [, (")

/-- A type with the operators before and after it that bind tightest. -/
def typeOperator : P Node := erased do
  if ← isAnyWord ["keyof", "unique", "readonly"] then
    let _ ← bump
    let _ ← parse .typeOperator
  else if ← isWord "infer" then
    let _ ← bump
    keepTypeName (← anyName)
    let _ ← attempt do
      expectWord "extends"
      let _ ← parse .plainType
      if (← context).forbidsConditionalType || !(← isSign "?") then return some ()
      else return none
  else
    if ← atEnd then throw ⟨.endOfInput, (← get).previousStop⟩
    operandType parse
    for _ in [0 : ← bound] do
      if (← isAfterLine) || !(← eatSign "[") then break
      if !(← eatSign "]") then
        let _ ← parse .type
        expectSign "]"

/-- What an interface or a class inherits the type of. -/
def heritage : P Unit := delimited
    (do return (← isSign "\x7b") || (← isAnyWord ["implements", "extends"])) do
  let name ← anyIdentifier
  let base ← parse (.subscripts name true true)
  match base with
  | .mk (.identifier ..) _ _ | .mk (.member false) _ _ | .mk .cast _ _ => pure ()
  | _ => note .heritageExpression name.offset
  keepInType [base]
  if ← isSign "<" then typeArguments parse

/-- An interface after its keyword. -/
def interfaceDeclaration (start : Nat) : P Node := do
  let name ← anyIdentifier
  if ["string", "null", "number", "object", "any", "unknown", "boolean", "bigint", "symbol",
      "void", "never", "intrinsic"].contains (name.name?.getD "") then
    note .interfaceName name.offset
  let (_, types) ← keepingTypes do
    let _ ← typeParameters? parse
    if ← eatWord "extends" then heritage parse
    if ← isWord "extends" then
      noteHere .extendsTwice
      for _ in [0 : ← bound] do
        if (← atEnd) || (← isSign "\x7b") then break
        let _ ← bump
    inType (typeMembers parse)
  return .mk .interface start (name :: types)

/-- An alias of a type after its keyword. -/
def typeAlias (start : Nat) : P Node := do
  let name ← anyIdentifier
  let (_, types) ← keepingTypes do
    let _ ← typeParameters? parse
    inType do
      if !(← eatSign "=") then failHere (.unexpected (← shownOption) "=")
      let _ ← parse .type
    expectSemicolon
  return .mk .typeAlias start (name :: types)

end ScriptBundle.Script.P
