import ScriptBundle.Script.Grammar.Functions
import ScriptBundle.Script.Grammar.Operators

/-! Parentheses. What they hold is read as expressions as long as it can be, and becomes the
parameters of an arrow function when an arrow follows. -/
namespace ScriptBundle.Script.P

variable (parse : Reader)

/-- Something between parentheses: an expression, maybe spread, or what only can be a parameter. -/
structure ParenItem where
  node : Node
  isPattern : Bool

/-- Whether a question mark says that a parameter may be missing. -/
def beginsOptionalParameter : P Bool := next (isAnySign [",", ":", ")", "="])

/-- An item as far as expressions and parameters look alike. -/
def itemExpression (start : Nat) : P Node := do
  if (← isReference) || ((← isSign "...") && (← next isReference)) then
    if ← eatSign "..." then
      return .mk .spread start [← allowingIn (binaryExpression parse)]
    assignmentRest parse (← binaryExpression parse)
  else allowingIn (element parse)

def isSpread (n : Node) : Bool := n.kind == .spread

/-- The expression of an item without the sign that spreads it. -/
def spreadless : Node → Node
  | .mk .spread _ [inner] => inner
  | n => n

/-- What may follow a question mark after an item. -/
def afterQuestion (item : Node) : P (Node × Bool) := do
  if ← beginsOptionalParameter then
    let _ ← bump
    if isSpread item then note .restOptional (← previousStart)
    if (spreadless item).name?.isNone then fail .arrowParameterOptional item.offset
    return (item, true)
  if isSpread item then return (item, false)
  let _ ← bump
  return (← outcomes parse item, false)

/-- An item that a type or a question mark makes a parameter. -/
def typedParameter (start : Nat) (item : Node) : P Node := do
  let pattern ← parse (.asPattern .binding (spreadless item))
  let pattern := if isSpread item then Node.mk .rest item.offset [pattern] else pattern
  let (_, types) ← keepingTypes (annotation? parse)
  let pattern := pattern.extended types
  if ← eatSign "=" then
    return .mk .defaulted start [pattern, ← parse .assignment]
  else return pattern

/-- Notes the names that strict code may not bind. -/
def checkNames : List Node → P Unit
  | [] => pure ()
  | .mk (.identifier name _) place _ :: more => do
    if isUnbindable name then note .evalOrArguments place
    checkNames more
  | .mk .rest _ (inner :: _) :: more => do
    if let .mk (.identifier name _) place _ := inner then
      if isUnbindable name then note .evalOrArguments place
    checkNames more
  | .mk .defaulted _ (inner :: _) :: more => do
    if let .mk (.identifier name _) place _ := inner then
      if isUnbindable name then note .evalOrArguments place
    checkNames more
  | _ :: more => checkNames more

/-- The last item as a parameter. -/
def lastParameter (comma : Option Nat) (item : ParenItem) : P Node := do
  if item.isPattern then
    if item.node.kind == .rest then
      if let some comma := comma then note .restComma comma
    return item.node
  match item.node with
  | .mk .spread start [inner] =>
    if inner.kind == .assign "=" then note .restWithDefault start
    if let some comma := comma then note .restComma comma
    return .mk .rest start [← parse (.asPattern .binding inner)]
  | expression => parse (.asPattern .binding expression)

/-- The items between parentheses as the parameters of an arrow function. -/
def asParameters (start : Nat) (items : List ParenItem) (comma : Option Nat) : P Node := do
  let mut parameters := #[]
  for item in items.dropLast do
    if isSpread item.node || item.node.kind == .rest then note .restTrailing item.node.offset
    else if item.isPattern then parameters := parameters.push item.node
    else parameters := parameters.push (← parse (.asPattern .binding item.node))
  if let some item := items.getLast? then
    parameters := parameters.push (← lastParameter parse comma item)
  checkNames parameters.toList
  return .mk .parameters start parameters.toList

/-- The items between parentheses, and where a comma stands before the closing one. -/
def parenItems : P (List ParenItem × Option Nat) := do
  expectSign "("
  let mut items : Array ParenItem := #[]
  let mut comma : Option Nat := none
  for _ in [0 : ← bound] do
    if (← atEnd) || (← isSign ")") then break
    let isAsync ← do
      if ← isWord "async" then
        next do return (← isSign "(") || (← isName)
      else pure false
    let start ← position
    modify fun s => { s with arrowStart := some start }
    let hasModifier ← parameterModifier
    let place ← position
    let item ← itemExpression parse place
    let (item, isOptional) ← if ← isSign "?" then afterQuestion parse item else pure (item, false)
    let isPattern ← do
      if isOptional then pure true else isSign ":"
    let item ← if isPattern then typedParameter parse place item else pure item
    if hasModifier then note .parameterProperty start
    items := items.push ⟨item, isPattern⟩
    if ← eatSign "=>" then
      if item.name?.isSome then
        let parameters ← asParameters parse start items.toList none
        let body ← arrowBody parse false false (areSimple parameters)
        items := items.push ⟨.mk (.arrow isAsync) start [parameters, body], false⟩
    if !(← isSign ")") then
      expectSign ","
      if ← isSign ")" then comma := some (← previousStart)
  expectSign ")"
  return (items.toList, comma)

/-- An arrow function after its parameters and the arrow, with what is left of its types. -/
def arrowRest (start : Nat) (isAsync : Bool) (parameters : Node) (types : List Node) : P Node := do
  let body ← arrowBody parse isAsync false (areSimple parameters)
  return .mk (.arrow isAsync) start (parameters :: body :: types)

/-- An arrow function in a conditional expression, where a colon after the parentheses may begin
the type of its result or the other outcome. -/
def arrowInConditional? (start : Nat) (isAsync : Bool) (items : List ParenItem) :
    P (Option Node) := do
  let context ← context
  if !context.inConditional || !(← isSign ":") then return none
  attempt do
    let (_, types) ← keepingTypes (resultType parse ":")
    expectSign "=>"
    let parameters ← asParameters parse start items none
    let arrow ← arrowRest parse start isAsync parameters types
    if context.awaitsColon && !(← isSign ":") then return none
    return some arrow

/-- What is left of the type of a result, if one follows before an arrow. -/
def resultBeforeArrow? : P (Option (List Node)) := do
  if (← context).awaitsColon || !(← isSign ":") then return none
  attempt do
    let (_, types) ← keepingTypes (resultType parse ":")
    if ← isSign "=>" then return some types else return none

/-- Whether the body of an arrow function is a block. -/
def hasBlock : Node → Bool
  | .mk (.arrow _) _ (_ :: .mk .block _ _ :: _) => true
  | _ => false

/-- An arrow function whose parameters were read, and what wrongly follows its block. -/
def arrowAfterItems (start : Nat) (isAsync mayBegin : Bool) (items : List ParenItem)
    (comma : Option Nat) (types : List Node) : P Node := do
  if (← lexeme).isAfterLine then failHere .lineBreakBeforeArrow
  if !mayBegin then failHere .arrowNotAllowed
  expectSign "=>"
  let parameters ← asParameters parse start items comma
  let arrow ← arrowRest parse start isAsync parameters types
  if hasBlock arrow && (← token).isBinarySign then
    noteHere .missingSemicolon
    let whole ← parse (.operators arrow 0)
    if !(← endsStatement) then noteHere .missingSemicolon
    return whole
  return arrow

/-- Notes properties with a default, which only patterns have. -/
def checkShorthands (expression : Node) : P Unit := do
  if let .mk .object _ properties := expression then
    for one in properties do
      if let .mk .shorthand place [_, value] := one then
        if !value.isAbsent then note .shorthandWithDefault place

/-- Parentheses or an arrow function. `asyncAt` is where the word stands that makes the function
asynchronous, or a call of what the word names. -/
def parenOrArrow (mayBegin : Bool) (asyncAt : Option Nat) : P Node := do
  let start ← match asyncAt with
    | some place => pure place
    | none => position
  let isAsync := asyncAt.isSome
  let (items, comma) ← within (fun c => { c with
    awaitsColon := false
    allowsIn := true }) (parenItems parse)
  if let some arrow ← arrowInConditional? parse start isAsync items then return arrow
  let result ← resultBeforeArrow? parse
  if items.any (·.isPattern) || result.isSome || (← isSign "=>") then
    return ← arrowAfterItems parse start isAsync mayBegin items comma (result.getD [])
  for item in items do checkShorthands (spreadless item.node)
  let expressions := items.map (·.node)
  if isAsync then
    let callee := Node.mk (.identifier "async" .unknown) start []
    return .mk (.call false) start (callee :: expressions)
  if expressions.isEmpty then fail .emptyParentheses start
  if let some spread := expressions.find? isSpread then
    fail .spreadInParentheses (spreadless spread).offset
  match expressions with
  | [single] => return .mk .paren start [single]
  | several =>
    let place := (several.headD .absent).offset
    return .mk .paren start [.mk .sequence place several]

/-- The parameters and the arrow of a generic asynchronous function, if they follow. -/
def genericAsyncArrow? (start : Nat) : P (Option Node) := do
  let head ← attempt do
    let (_, types) ← keepingTypes (typeParameters parse)
    expectSign "("
    let found ← parameters parse
    expectSign ")"
    let (_, result) ← keepingTypes do if ← isSign ":" then resultType parse ":"
    expectSign "=>"
    return some (found, types ++ result)
  match head with
  | some (found, types) =>
    return some (← within (fun c => { c with
      inAsync := true
      inGenerator := false }) (arrowRest parse start true found types))
  | none => return none

end ScriptBundle.Script.P
