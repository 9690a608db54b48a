import ScriptBundle.Script.Grammar.Patterns

/-! Operators between, before and after operands. The operands of binary operators are grouped by
how tightly the operators bind; those of one precedence to the left, powers to the right. -/
namespace ScriptBundle.Script.P

variable (parse : Reader)

/-- Expressions with commas between them. -/
def expression : P Node := do
  let first ← parse .assignment
  if !(← isSign ",") then return first
  let mut parts := #[first]
  for _ in [0 : ← bound] do
    if !(← eatSign ",") then break
    parts := parts.push (← parse .assignment)
  return .mk .sequence first.offset parts.toList

/-- An expression that a list may spread. -/
def element : P Node := do
  let start ← position
  if ← eatSign "..." then return .mk .spread start [← allowingIn (parse .assignment)]
  else parse .assignment

/-- Whether an expression is the arrow function that could begin where it starts. -/
def isAwaitedArrow (expression : Node) : P Bool := do
  match expression.kind with
  | .arrow _ => return (← get).arrowStart == some expression.offset
  | _ => return false

/-- The binary operator at the current token, if one is allowed. -/
def binaryOperator? : P (Option String) := do
  match ← token with
  | .word "in" => return if (← context).allowsIn then some "in" else none
  | .word "instanceof" => return some "instanceof"
  | .sign text => return if (precedence? text).isSome then some text else none
  | _ => return none

def isBinary (operators : List String) : Node → Bool
  | .mk (.binary operator) _ _ => operators.contains operator
  | _ => false

/-- Whether an operand must not stand to the left of a power. -/
def isRefusedBase (n : Node) : Bool :=
  match n.kind with
  | .unary _ | .await => true
  | _ => false

/-- An assertion about the type of what stands to the left of it, if one follows. -/
def assertion? (left : Node) (floor : Nat) : P (Option Node) := do
  if floor ≥ 7 || (← isAfterLine) then return none
  if ← isWord "as" then
    if ← next (isWord "const") then
      let _ ← bump
      let _ ← bump
      return some (left.cast [])
    let _ ← bump
    return some (← asserted)
  if ← isWord "satisfies" then
    let _ ← bump
    return some (← asserted)
  return none
where
  asserted : P Node := do
    let (_, types) ← keepingTypes (type parse)
    reread
    return left.cast types

/-- Notes where operators are mixed that need parentheses between them. -/
def checkNullish (operator : String) (left right : Node) : P Unit := do
  if operator = "??" then
    for operand in [left, right] do
      if isBinary ["&&", "||"] operand then note .mixedNullish operand.offset
  else if operator = "&&" || operator = "||" then
    if isBinary ["??"] left then note .mixedNullish left.offset

/-- The operators that follow an operand and bind more tightly than a floor. -/
def operators (left : Node) (floor : Nat) : P Node := do
  let mut left := left
  for _ in [0 : ← bound] do
    if let some asserted ← assertion? parse left floor then
      left := asserted
      continue
    let some operator ← binaryOperator? | break
    let strength := (precedence? operator).getD 0
    if strength ≤ floor then break
    if operator = "**" && isRefusedBase left then failHere .powerOfUnary
    let _ ← bump
    let operand ← parse .unary
    let right ← parse (.operators operand (if operator = "**" then strength - 1 else strength))
    checkNullish operator left right
    left := .mk (.binary operator) left.offset [left, right]
  return left

/-- An expression without conditions and assignments. Where its first operand is missing before an
operator, reading goes on. -/
def binaryExpression : P Node := do
  let start ← position
  let left ← recover (parse .unary) fun complaint => do
    let _ ← present
    if (← binaryOperator?).isSome then
      noteHere .expectedExpression
      return .mk .invalid start []
    else throw complaint
  if ← isAwaitedArrow left then return left
  parse (.operators left 0)

/-- The two outcomes of a condition, after its question mark. -/
def outcomes (test : Node) : P Node := do
  let yes ← within (fun c => { c with
    inConditional := true
    awaitsColon := true
    allowsIn := true }) (parse .assignment)
  expectSign ":"
  let no ← within (fun c => { c with
    inConditional := true
    awaitsColon := false }) (parse .assignment)
  return .mk .conditional test.offset [test, yes, no]

def conditional : P Node := do
  let test ← binaryExpression parse
  if ← isAwaitedArrow test then return test
  if ← eatSign "?" then outcomes parse test else return test

/-- An operator for assignment and the value after what is assigned to. -/
def assignmentRest (target : Node) : P Node := do
  let .sign operator ← token | return target
  if !assignmentSigns.contains operator then return target
  let left ← if operator = "=" then parse (.asPattern .assignment target)
    else do
      if !isSimpleTarget target then note .assignmentLeftSide target.offset
      if target.name?.any isUnbindable then note .evalOrArguments target.offset
      pure target
  if !isTarget left then fail .invalidTarget left.offset
  let _ ← bump
  let value ← parse .assignment
  return .mk (.assign operator) target.offset [left, value]

/-- An expression that hands a value out of a generator. -/
def yield : P Node := do
  let start ← position
  let _ ← bump
  let context ← context
  if context.inParameters && !context.inFunction then fail .yieldInParameters start
  let isBare ← do
    if ← endsStatement then pure true
    else if ← isAnySign ["*", "/", "/="] then pure false
    else pure !(← token).startsExpression
  if isBare then return .mk (.yield false) start [.absent]
  let isDelegate ← eatSign "*"
  return .mk (.yield isDelegate) start [← parse .assignment]

/-- An expression that waits, after its first word. -/
def awaitRest (start : Nat) : P Node := do
  if ← isSign "*" then failHere .awaitStar
  let context ← context
  if (← isAnySign [")", "]"]) && !context.inAsync then
    note .awaitAsName start
    return .mk (.identifier "await" .unknown) start []
  if context.inFunction && !context.inAsync then noteHere .awaitInFunction
  if context.inParameters && !context.inFunction then noteHere .awaitInParameters
  return .mk .await start [← parse .unary]

/-- Notes what cannot be deleted. -/
def checkDeleted (operand : Node) : P Unit := do
  if operand.name?.isSome then note .deleteIdentifier operand.offset
  match operand.unparenthesised.kind with
  | .member _ | .index _ => pure ()
  | _ => note .deleteOperand operand.unparenthesised.offset

/-- An operand with the operators before and after it. -/
def unary : P Node := do
  let start ← position
  if ← eatSign "<" then
    let (_, types) ← keepingTypes do if !(← eatWord "const") then type parse
    expectSign ">"
    return .mk .cast start ((← parse .unary) :: types)
  if ← isAnySign ["++", "--"] then
    let operator := (← bump).shown
    let operand ← parse .unary
    checkTarget operand false
    return .mk (.update operator true) start [operand]
  if (← isAnySign ["+", "-", "~", "!"]) || (← isAnyWord ["delete", "void", "typeof"]) then
    let operator := (← bump).shown
    let place ← position
    let operand ← recover (parse .unary) fun complaint => do
      recordWrong
      record complaint
      return .mk .invalid place []
    if operator = "delete" then checkDeleted operand
    return .mk (.unary operator) start [operand]
  if ← eatWord "await" then return ← awaitRest parse start
  let operand ← parse .leftHandSide
  if ← isAwaitedArrow operand then return operand
  if ← isAfterLine then return operand
  if ← isAnySign ["++", "--"] then
    checkTarget operand false
    let operator := (← bump).shown
    return .mk (.update operator false) start [operand]
  return operand

end ScriptBundle.Script.P
