import ScriptBundle.Script.Grammar.Arrows
import ScriptBundle.Script.Grammar.Classes
import ScriptBundle.Script.Grammar.Literals

/-! Expressions that begin with an operand: what stands alone, the accesses and calls that follow
it, and assignments. -/
namespace ScriptBundle.Script.P

variable (parse : Reader)

/-- Reads where angle brackets are operators. -/
def readingShifts {α : Type} (p : P α) : P α := within (fun c => { c with readsShifts := true }) p

/-- The arguments of a call. -/
def arguments : P (List Node) := within (fun c => { c with awaitsColon := false }) do
  expectSign "("
  let mut found := #[]
  for _ in [0 : ← bound] do
    if (← atEnd) || (← isSign ")") then break
    if !found.isEmpty then
      expectSign ","
      if ← isSign ")" then break
    found := found.push (← allowingIn (element parse))
  expectSign ")"
  return found.toList

/-- What is left of type arguments that stand between an expression and whatever no call follows. -/
def bareTypeArguments? : P (Option (List Node)) := do
  if !(← isSign "<") then return none
  attempt do
    let (_, types) ← keepingTypes (typeArguments parse)
    if ← isAnySign ["<", ">", "+", "-", "(", "`"] then return none
    if (← isAfterLine) || (← binaryOperator?).isSome || !(← token).startsExpression then
      return some types
    else return none

/-- What is left of type arguments before the parenthesis of a call. -/
def callTypeArguments? : P (Option (List Node)) := do
  if !(← isAnySign ["<", "<<"]) then return none
  attempt do
    let (_, types) ← keepingTypes (typeArguments parse)
    if ← isSign "(" then return some types else return none

/-- An expression with type arguments of its own, if there are any. -/
def instantiated (object : Node) (types : Option (List Node)) : Node :=
  match types with
  | some types => object.cast types
  | none => object

def taggedTemplate (tag : Node) (types : Option (List Node)) : P Node := do
  let found ← template parse true
  if isOptionalChain tag then note .templateInOptionalChain tag.offset
  return .mk .taggedTemplate tag.offset [instantiated tag types, found]

/-- What type arguments can make of the expression before them: a call, a tagged template or
nothing but the expression. The result tells whether more may follow. -/
def genericSubscript? (object : Node) (forbidsCall : Bool) : P (Option (Node × Bool)) := do
  if !(← isSign "<") then return none
  within (fun c => { c with readsShifts := false }) <| attempt do
    if !forbidsCall && object.name? == some "async" &&
        (← get).arrowStart == some object.offset then
      if let some arrow ← genericAsyncArrow? parse object.offset then return some (arrow, true)
    let (_, types) ← keepingTypes (typeArguments parse)
    if !forbidsCall && (← isSign "(") then
      return some (.mk (.call false) object.offset (object :: (← arguments parse) ++ types), true)
    if ← isSign "`" then return some (← taggedTemplate parse object (some types), true)
    if (← isSign "=") || (← isAnyWord ["as", "satisfies"]) then
      return some (object.cast types, false)
    return none

def isSuper (n : Node) : Bool := n.kind == .super

def isImport (n : Node) : Bool := n.kind == .importKeyword

/-- Complains where `super` may not be used as it is. -/
def checkSuper (object : Node) (isOptional forbidsCall : Bool) : P Unit := do
  if isSuper object then
    if !(← context).allowsSuper then failHere .invalidSuper
    if isOptional then failHere (if forbidsCall then .invalidSuperCall else .invalidSuper)

/-- One access, call or template after an expression, if one follows. The result tells whether more
may follow. Type arguments belong to the expression, unless it is called. -/
def subscript (object : Node) (forbidsCall forbidsIndex : Bool) : P (Node × Bool) := do
  let start := object.offset
  if !(← isAfterLine) && (← eatSign "!") then return (object.cast [], true)
  let isValue := !isSuper object && !isImport object
  if isValue then
    if let some found ← genericSubscript? parse object forbidsCall then return found
  let types ← bareTypeArguments? parse
  let base := if isValue then instantiated object types else object
  let isOptional ← eatSign "?."
  if !forbidsIndex && (← eatSign "[") then
    let index ← allowingIn (expression parse)
    expectSign "]"
    checkSuper object isOptional forbidsCall
    return (.mk (.index isOptional) start [base, index], true)
  if (isOptional || !forbidsCall) && (← isSign "(") then
    let found ← arguments parse
    return (.mk (.call isOptional) start (object :: found ++ types.getD []), true)
  if ← (if isOptional then pure true else eatSign ".") then
    let name ← memberName
    checkSuper object isOptional forbidsCall
    return (.mk (.member isOptional) start [base, name], true)
  if isSuper object then
    failHere (if forbidsCall then .invalidSuperCall else .invalidSuper)
  if isImport object then unexpected "("
  if ← isSign "`" then return (← taggedTemplate parse base none, true)
  return (base, false)

/-- All accesses, calls and templates after an expression. -/
def subscripts (object : Node) (forbidsCall forbidsIndex : Bool) : P Node := do
  let mut object := object
  for _ in [0 : ← bound] do
    let (next, isOpen) ← subscript parse object forbidsCall forbidsIndex
    object := next
    if !isOpen then break
  return object

/-- What follows `import` where it is no declaration: a call, or a name. -/
def importRest (start : Nat) (forbidsCall : Bool) : P Node := do
  if ← eatSign "." then
    match ← anyName with
    | "meta" => parse (.subscripts (.mk (.metaProperty "import.meta") start []) forbidsCall false)
    | "defer" => parse (.subscripts (.mk (.metaProperty "import.defer") start []) forbidsCall false)
    | "source" =>
      parse (.subscripts (.mk (.metaProperty "import.source") start []) forbidsCall false)
    | _ => unexpected "meta"
  else parse (.subscripts (.mk .importKeyword start []) forbidsCall false)

/-- An instance of a class, after the keyword. -/
def newRest (start : Nat) : P Node := do
  if ← eatSign "." then
    if !(← eatWord "target") then unexpected "target"
    let context ← context
    if !context.inPlainFunction && !context.inParameters && !context.inClass then
      note .newTargetOutside start
    return ← parse (.subscripts (.mk (.metaProperty "new.target") start []) true false)
  let callee ← parse .member
  if ← isAwaitedArrow callee then return callee
  if isOptionalChain callee then fail .newOnOptionalChain callee.offset
  let types ← within (fun c => { c with readsShifts := false }) (callTypeArguments? parse)
  if ← isSign "(" then
    let found ← arguments parse
    parse (.subscripts (.mk (.new true) start (callee :: found ++ types.getD [])) true false)
  else return .mk (.new false) start [callee]

/-- A name as an expression, or an arrow function that begins with it. -/
def nameOrArrow (mayBegin : Bool) : P Node := do
  let name ← identifier !(← context).inAsync
  let start := name.offset
  let text := name.name?.getD ""
  let isOnLine := !(← lexeme).isAfterLine
  if mayBegin && text = "async" && isOnLine && (← isReference) then
    let context ← context
    if context.inForHead && (← isWord "of") && !(← next (isSign "=>")) then
      if !context.inForAwaitHead then note .forOfAsync (← previousStart)
      return name
    let parameter ← boundName
    if parameter.name? == some "as" && !(← isSign "=>") then
      let (_, types) ← keepingTypes (type parse)
      return name.cast types
    expectSign "=>"
    return ← arrowRest parse start true (.mk .parameters start [parameter]) []
  if mayBegin && isOnLine && (← eatSign "=>") then
    if isUnbindable text then note .evalOrArguments start
    return ← arrowRest parse start false (.mk .parameters start [name]) []
  return name

/-- What a word begins that is no name. -/
def keywordOperand? (start : Nat) (mayBegin : Bool) (text : String) : P (Option Node) := do
  match text with
  | "this" =>
    let _ ← bump
    return some (.mk .this start [])
  | "function" => return some (← functionExpression parse start false)
  | "class" => return some (← classExpression parse)
  | "true" | "false" | "null" => literal?
  | "async" =>
    if ← beginsAsyncFunction then
      let _ ← bump
      return some (← functionExpression parse start true)
    if mayBegin && (← next (isSign "<")) then
      let arrow ← attempt do
        let _ ← bump
        genericAsyncArrow? parse start
      if arrow.isSome then return arrow
    if mayBegin && (← next (isSign "(")) then
      let _ ← bump
      return some (← parenOrArrow parse mayBegin (some start))
    return none
  | _ => return none

/-- An operand without anything after it. -/
def primary : P Node := do
  rereadSlash
  let start ← position
  let mayBegin := (← get).arrowStart == some start
  match ← token with
  | .word text =>
    if let some operand ← keywordOperand? parse start mayBegin text then return operand
    if (← isReference) || text = "let" || text = "await" then return ← nameOrArrow parse mayBegin
  | .string .. | .number _ | .bigint _ => if let some literal ← literal? then return literal
  | .regex pattern flags => return ← regularExpression pattern flags
  | .sign "[" => return ← array parse
  | .sign "\x7b" => return ← object parse
  | .sign "`" => return ← template parse false
  | .sign "(" => return ← parenOrArrow parse mayBegin none
  | .sign "#" => return ← memberName
  | _ => pure ()
  failHere .expectedExpression

/-- An operand with the accesses that follow it, but no calls, or a new instance. -/
def memberOrNew : P Node := readingShifts do
  let start ← position
  if ← eatWord "new" then return ← newRest parse start
  if ← eatWord "super" then
    return ← parse (.subscripts (.mk .super start []) true false)
  if ← eatWord "import" then return ← importRest parse start true
  let operand ← primary parse
  if ← isAwaitedArrow operand then return operand
  parse (.subscripts (instantiated operand (← bareTypeArguments? parse)) true false)

/-- An operand with all accesses and calls that follow it. -/
def leftHandSide : P Node := do
  let start ← position
  if ← eatWord "super" then
    return ← parse (.subscripts (.mk .super start []) false false)
  if ← eatWord "import" then return ← importRest parse start false
  let callee ← parse .member
  if ← isAwaitedArrow callee then return callee
  let types ← callTypeArguments? parse
  if callee.kind == .new false then
    if types.isSome then expectSign "("
    return callee
  if ← isSign "(" then
    let call := Node.mk (.call false) start (callee :: (← arguments parse) ++ types.getD [])
    return ← parse (.subscripts call false false)
  return callee

/-- An assignment, or an expression without one. -/
def assignmentOrLess : P Node := do
  if (← context).inGenerator && (← isWord "yield") then return ← yield parse
  rereadSlash
  let mayBegin := match ← present with
    | .word text => text = "yield" || !keywords.contains text
    | .sign "(" => true
    | _ => false
  let start ← position
  modify fun s => { s with arrowStart := if mayBegin then some start else none }
  let found ← conditional parse
  if ← isAwaitedArrow found then return found
  match found.kind with
  | .conditional | .binary _ | .unary _ | .update .. => return found
  | _ => assignmentRest parse found

def assignment : P Node := do
  if (← isSign "<") && (← next isName) then
    let start ← position
    let arrow ← attempt do
      let (_, types) ← keepingTypes (typeParameters parse)
      match ← assignmentOrLess parse with
      | .mk (.arrow isAsync) _ (parameters :: body :: result) =>
        return some (Node.mk (.arrow isAsync) start (parameters :: body :: types ++ result))
      | _ => return none
    if let some arrow := arrow then return arrow
  assignmentOrLess parse

end ScriptBundle.Script.P
