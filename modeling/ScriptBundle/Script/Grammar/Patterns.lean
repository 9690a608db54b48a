import ScriptBundle.Script.Grammar.Names

/-! Patterns, both those that declarations bind and those that an expression turns out to be, and
the parameters of functions. -/
namespace ScriptBundle.Script.P

variable (parse : Reader)

/-- The name of a property. -/
def propertyKey : P Node := do
  let start ← position
  match ← present with
  | .string .. | .number _ | .bigint _ =>
    let literal ← literal?
    return literal.getD .absent
  | .word _ => word
  | .sign "[" =>
    let _ ← bump
    let inner ← position
    let first ← allowingIn (parse .assignment)
    let key ← if ← isSign "," then do
        let mut parts := #[first]
        for _ in [0 : ← bound] do
          if !(← eatSign ",") then break
          parts := parts.push (← allowingIn (parse .assignment))
        note .commaInComputedName inner
        pure (Node.mk .sequence inner parts.toList)
      else pure first
    expectSign "]"
    return .mk .computed start [key]
  | _ => unexpected "identifier, string literal, numeric literal or [ for the computed key"

/-- A pattern with an optional default. -/
def bindingElement : P Node := do
  let start ← position
  let pattern ← parse .bindingTarget
  if ← eatSign "=" then
    let value ← allowingIn (parse .assignment)
    if (← context).inAmbient then note .bodilessDefault start
    return .mk .defaulted start [pattern, value]
  else return pattern

def arrayPattern : P Node := do
  let start ← position
  let _ ← bump
  let mut elements : Array Node := #[]
  let mut rest : Option Nat := none
  for _ in [0 : ← bound] do
    if (← atEnd) || (← isSign "]") then break
    if ← eatSign "," then
      elements := elements.push .absent
      continue
    if let some place := rest then note .restNotLast place
    let place ← position
    if ← eatSign "..." then
      elements := elements.push (.mk .rest place [← parse .bindingTarget])
      rest := some place
    else elements := elements.push (← bindingElement parse)
    if !(← isSign "]") then
      expectSign ","
      if rest == some place && (← isSign "]") then note .restComma (← previousStart)
  expectSign "]"
  if (← context).inAmbient then
    let _ ← eatSign "?"
  return .mk .arrayPattern start elements.toList

def objectPatternProperty : P Node := do
  let start ← position
  if ← eatSign "..." then
    return .mk .rest start [← parse .bindingTarget]
  let key ← propertyKey parse
  if ← eatSign ":" then
    return .mk .property start [key, ← bindingElement parse]
  match key with
  | .mk (.word text) place _ =>
    let name := Node.mk (.identifier text .unknown) place []
    if ← eatSign "=" then
      return .mk .shorthand start [name, ← allowingIn (parse .assignment)]
    else
      if isReserved text then note .reservedShorthand place
      return .mk .shorthand start [name, .absent]
  | _ => unexpected "an identifier"

/-- Notes what is wrong with the rest elements of an object pattern. -/
def checkRest (comma : Option Nat) : List Node → P Unit
  | [] => pure ()
  | [.mk .rest place [target]] =>
    match target, comma with
    | .mk (.identifier ..) _ _, some comma => note .restComma comma
    | .mk (.identifier ..) _ _, none => pure ()
    | _, _ => fail .restWithoutName place
  | .mk .rest place _ :: more => do
    note .restNotLast place
    checkRest comma more
  | _ :: more => checkRest comma more

def objectPattern : P Node := within (fun c => { c with awaitsColon := false }) do
  let start ← position
  let _ ← bump
  let mut properties : Array Node := #[]
  let mut comma : Option Nat := none
  for _ in [0 : ← bound] do
    if ← eatSign "\x7d" then break
    properties := properties.push (← objectPatternProperty parse)
    if !(← isSign "\x7d") then
      expectSign ","
      if ← isSign "\x7d" then comma := some (← previousStart)
  checkRest comma properties.toList
  if (← context).inAmbient then
    let _ ← eatSign "?"
  return .mk .objectPattern start properties.toList

/-- What a declaration binds: a name or a pattern. -/
def bindingTarget : P Node := do
  match ← present with
  | .word _ => boundName
  | .sign "[" => arrayPattern parse
  | .sign "\x7b" => objectPattern parse
  | _ => unexpected "yield, an identifier, [ or \x7b"

/-- Whether a chain of accesses and calls stops where a value is missing. -/
def isOptionalChain : Node → Bool
  | .mk (.member isOptional) _ (object :: _) => isOptional || isOptionalChain object
  | .mk (.index isOptional) _ (object :: _) => isOptional || isOptionalChain object
  | .mk (.call isOptional) _ (callee :: _) => isOptional || isOptionalChain callee
  | _ => false

/-- Whether an assignment may have an expression on its left side as it is. -/
def isSimpleTarget : Node → Bool
  | .mk (.identifier name _) _ _ => !isUnbindable name
  | .mk (.member isOptional) start parts => !isOptionalChain (.mk (.member isOptional) start parts)
  | .mk (.index isOptional) start parts => !isOptionalChain (.mk (.index isOptional) start parts)
  | .mk .paren _ [inner] => isSimpleTarget inner
  | .mk .cast _ (inner :: _) => isSimpleTarget inner
  | _ => false

/-- Whether an expression that is no target is objected to at once. -/
def isRefusedTarget (refusesCalls : Bool) : Node → Bool
  | .mk (.call false) _ _ => refusesCalls
  | .mk (.binary _) _ _ => false
  | .mk .paren _ [inner] => isRefusedTarget refusesCalls inner
  | .mk kind _ _ =>
    match kind with
    | .string .. | .number _ | .bigint _ | .boolean _ | .null | .regex .. => false
    | _ => true

/-- Notes that something cannot be assigned to. -/
def checkTarget (expression : Node) (refusesCalls : Bool) : P Unit := do
  match expression with
  | .mk (.identifier name _) place _ =>
    if isUnbindable name then note .invalidUseOfEvalOrArguments place
  | _ =>
    if !isSimpleTarget expression && isRefusedTarget refusesCalls expression then
      note .assignmentLeftSide expression.offset

/-- Whether an expression may stand on the left side of an assignment, leaving aside what is only
complained about. -/
def isTarget (expression : Node) : Bool :=
  match expression.kind with
  | .identifier .. | .member _ | .index _ | .paren | .cast | .invalid | .arrayPattern
  | .objectPattern => true
  | _ => isOptionalChain expression

/-- A property of an object literal as one of a pattern. -/
def propertyAsPattern (role : PatternRole) (isLast : Bool) (comma : Option Nat) :
    Node → P Node
  | .mk .shorthand start parts => return .mk .shorthand start parts
  | .mk .property start [key, value] => do
    return .mk .property start [key, ← parse (.asPattern role.element value)]
  | .mk .spread start [inner] => do
    if !isLast then note .restNotLast start
    else if let some comma := comma then note .restComma comma
    let target ←
      if role.element = .bindingElement then
        match inner with
        | .mk (.identifier ..) _ _ => pure inner
        | _ =>
          note .restWithoutName start
          pure (.mk .invalid start [])
      else parse (.asPattern role.element inner)
    if target.kind == .defaulted then note .restWithDefault start
    return .mk .rest start [target]
  | other => fail .notAPattern other.offset

/-- The elements of an array literal as those of a pattern. -/
def elementsAsPatterns (role : PatternRole) (comma : Option Nat) (allowsRest : Bool) :
    List Node → P (List Node)
  | [] => return []
  | element :: more => do
    let isLast := more.isEmpty
    let first ← match element with
      | .mk .absent _ _ => pure [.absent]
      | .mk .spread start [inner] =>
        if !(isLast && allowsRest) then
          note .restNotLast inner.offset
          pure []
        else
          if inner.kind == .assign "=" then note .restWithDefault start
          if let some comma := comma then note .restComma comma
          pure [.mk .rest start [← parse (.asPattern role.element inner)]]
      | other => pure [← parse (.asPattern role.element other)]
    return first ++ (← elementsAsPatterns role comma allowsRest more)

/-- The elements before the holes at the end. -/
def withoutTrailingHoles (elements : List Node) : List Node :=
  (elements.reverse.dropWhile Node.isAbsent).reverse

/-- An expression as the pattern that it turns out to be. -/
def asPattern (role : PatternRole) (expression : Node) : P Node := do
  let start := expression.offset
  let isLiteral := match expression with
    | .mk .object _ _ | .mk .array _ _ => true
    | _ => false
  if role = .assignment && !isLiteral then
    if expression.kind == .invalid then return expression
    checkTarget expression true
    return expression
  let isDone ← do
    if role = .assignmentElement && !isLiteral then
      match expression.kind with
      | .member false | .index false | .call false | .new _ | .string .. | .number _ | .bigint _
      | .boolean _ | .null | .regex .. | .identifier .. | .functionExpression | .classExpression
      | .paren | .template | .cast =>
        if !isSimpleTarget expression then note .notSimpleTarget start
        pure true
      | .assign _ => pure false
      | .invalid => pure true
      | _ =>
        note .notAPattern start
        pure false
    else pure false
  if isDone then return expression
  let comma := ((← get).trailingCommas.find? (·.1 = start)).map (·.2)
  match expression with
  | .mk .invalid _ _ => return expression
  | .mk (.identifier ..) _ _ => return expression
  | .mk (.assign "=") _ [target, value] =>
    let target ← match target with
      | .mk .arrayPattern _ _ | .mk .objectPattern _ _ => pure target
      | target => parse (.asPattern role target)
    return .mk .defaulted start [target, value]
  | .mk .object _ properties =>
    let mut patterns := #[]
    let last := properties.length - 1
    for property in properties, i in [0 : properties.length] do
      patterns := patterns.push (← propertyAsPattern parse role (i = last) comma property)
    return .mk .objectPattern start patterns.toList
  | .mk .array _ elements =>
    let kept := withoutTrailingHoles elements
    return .mk .arrayPattern start
      (← elementsAsPatterns parse role comma (kept.length = elements.length) kept)
  | .mk (.yield _) _ _ =>
    note (if (← context).inGenerator then .yieldInParameters else .notAPattern) start
    return .mk .invalid start []
  | _ =>
    note .notAPattern start
    return .mk .invalid start []

/-- A parameter after the modifiers that may stand where it starts. -/
def parameterPattern (start : Nat) : P Node := do
  let place ← position
  let pattern ← parse .bindingTarget
  let isOptional ← eatSign "?"
  let (_, types) ← keepingTypes (annotation? parse)
  let pattern := pattern.extended types
  if ← eatSign "=" then
    if isOptional then note .optionalWithDefault place
    let value ← parse .assignment
    if (← context).inAmbient then note .bodilessDefault start
    return .mk .defaulted place [pattern, value]
  else return pattern

/-- A parameter of a function. -/
def parameter : P Node := do
  let start ← position
  let hasModifier ← parameterModifier
  let pattern ← parameterPattern parse start
  if hasModifier then note .parameterProperty start
  return pattern

/-- A parameter that takes all further arguments. -/
def restParameter (start : Nat) : P Node := do
  let pattern ← parse .bindingTarget
  let pattern ← if ← eatSign "=" then do
      let value ← parse .assignment
      note .restWithDefault pattern.offset
      pure (Node.mk .defaulted pattern.offset [pattern, value])
    else pure pattern
  let (_, types) ← keepingTypes (annotation? parse)
  return .mk .rest start (pattern :: types)

/-- What is left of a parameter: its type alone if it only tells the type of the receiver. -/
def withoutReceiver : Node → List Node
  | .mk (.identifier "this" _) _ types => types
  | n => [n]

/-- Parameters up to the closing parenthesis. -/
def parameterList (parameter : P Node) : P Node := do
  let start ← position
  let mut parameters : Array Node := #[]
  let mut rest : Option Nat := none
  for _ in [0 : ← bound] do
    if (← atEnd) || (← isSign ")") then break
    if let some place := rest then note .restTrailing place
    let place ← position
    if ← eatSign "..." then
      parameters := parameters.push (← restParameter parse place)
      rest := some place
    else parameters := parameters.push (← parameter)
    if ← isSign ")" then break
    expectSign ","
    if rest == some place && (← isSign ")") then note .restComma (← previousStart)
  return .mk .parameters start (parameters.toList.flatMap withoutReceiver)

def parameters : P Node := parameterList parse (parameter parse)

end ScriptBundle.Script.P
