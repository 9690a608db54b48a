import ScriptBundle.Script.Grammar.Types

/-! Functions: parameters and body, with or without a name. -/
namespace ScriptBundle.Script.P

variable (parse : Reader)

/-- Statements up to the closing brace, which is read too. A block that the source ends in is
complained about and ends there. -/
def statements : P (List Node) := do
  let mut found := #[]
  for _ in [0 : ← bound] do
    if ← atEnd then
      noteHere (.expected "\x7d" (← shown))
      break
    if ← eatSign "\x7d" then break
    found := found.push (← parse (.statement true))
  return found.toList

def block : P Node := do
  let start ← position
  expectSign "\x7b"
  return .mk .block start (← statements parse)

/-- Whether all parameters are names. -/
def areSimple (parameters : Node) : Bool :=
  parameters.parts.all fun n => n.isTypes || n.name?.isSome

/-- Whether statements begin with a directive for strict mode, and where it stands. -/
def strictDirective? : List Node → Option Nat
  | .mk .expression start [.mk (.string "use strict" _) _ _] :: _ => some start
  | .mk .expression _ [.mk (.string ..) _ _] :: rest => strictDirective? rest
  | _ => none

/-- A function's body, under the circumstances of a function. -/
def functionBody (isAsync isGenerator isArrow : Bool) (body : P Node) : P Node := do
  if (← context).inAmbient && (← isSign "\x7b") then noteHere .ambientBody
  within (fun c => { c with
      inAsync := isAsync
      inGenerator := isGenerator
      inPlainFunction := c.inPlainFunction || !isArrow
      inFunction := true
      inStaticBlock := false
      allowsBreak := false
      allowsContinue := false
      awaitsColon := if isArrow then c.awaitsColon else false }) (freshly body)

/-- A block as the body of a function, or nothing where a declaration may leave it out. -/
def blockBody (isSimple : Bool) : P Node := do
  if !(← isSign "\x7b") && (← eatSemicolon) then return .absent
  let body ← allowingIn (within (fun c => { c with inField := false }) (block parse))
  if !isSimple then
    if let some place := strictDirective? body.parts then note .strictDirective place
  return body

/-- The body of an arrow function. -/
def arrowBody (isAsync isGenerator isSimple : Bool) : P Node :=
  functionBody isAsync isGenerator true do
    if ← isSign "\x7b" then blockBody parse isSimple else parse .assignment

/-- What was read of a function after its name. -/
structure FunctionParts where
  kind : Kind
  start : Nat
  parameters : Node
  body : Node
  isGeneric : Bool
  hasResult : Bool
  /-- What is left of the type parameters and of the type of the result. -/
  typeParameters : List Node
  resultTypes : List Node

namespace FunctionParts

def function (f : FunctionParts) : Node :=
  .mk f.kind f.start (f.parameters :: f.body :: f.typeParameters ++ f.resultTypes)

/-- The function of a property of an object. Of its head, a property that gets a value has a result
alone, and one that sets a value has parameters alone. -/
def ofProperty (f : FunctionParts) : MethodKind → Node
  | .plain => f.function
  | .getter => .mk f.kind f.start [.mk .parameters f.parameters.offset f.resultTypes, f.body]
  | .setter => .mk f.kind f.start [f.parameters, f.body]

end FunctionParts

/-- A function after its name. -/
def functionParts (isAsync isGenerator : Bool) (readParameters : P Node) : P FunctionParts := do
  let start ← position
  within (fun c => { c with inAsync := isAsync, inGenerator := isGenerator }) do
    let (isGeneric, typeParameters) ← keepingTypes (inType (typeParameters? parse))
    expectSign "("
    let parameters ← within (fun c => { c with inParameters := true, inFunction := false })
      readParameters
    expectSign ")"
    let hasResult ← isSign ":"
    let (_, resultTypes) ← keepingTypes do if hasResult then resultType parse ":"
    let body ← functionBody isAsync isGenerator false (blockBody parse (areSimple parameters))
    if body.isAbsent then
      for parameter in parameters.parts do
        if let .mk .defaulted place _ := parameter then note .bodilessDefault place
    return {
      kind := .function isAsync isGenerator
      start := start
      parameters := parameters
      body := body
      isGeneric := isGeneric
      hasResult := hasResult
      typeParameters := typeParameters
      resultTypes := resultTypes }

/-- A function from its keyword on: its name, if it has one, and the rest. -/
def functionFrom (isAsync isExpression needsName : Bool) : P (Node × Node) := do
  let _ ← bump
  let isGenerator ← eatSign "*"
  let readName : P Node := do
    if needsName then boundName
    else if ← isReference then boundName
    else return .absent
  let name ← if isExpression then
      within (fun c => { c with inAsync := isAsync, inGenerator := isGenerator }) readName
    else readName
  let function ← within (fun c => { c with
      allowsSuper := false
      inField := false
      awaitsColon := false }) (functionParts parse isAsync isGenerator (parameters parse))
  return (name, function.function)

/-- A function as a declaration. -/
def functionDeclaration (start : Nat) (isAsync isDeclared : Bool) : P Node := do
  let (name, function) ← functionFrom parse isAsync false true
  return .mk (.functionDeclaration isDeclared) start [name, function]

/-- A function as an expression. -/
def functionExpression (start : Nat) (isAsync : Bool) : P Node := do
  let (name, function) ← functionFrom parse isAsync true false
  return .mk .functionExpression start [name, function]

/-- Whether an asynchronous function begins here. -/
def beginsAsyncFunction : P Bool := do
  if ← isWord "async" then nextOnLine (isWord "function") else return false

/-- The parameters of a getter or a setter whose name stands at a place. -/
def accessorParameters (isGetter : Bool) (place : Nat) : P Node := do
  let found ← parameters parse
  let patterns := found.parts.filter (!·.isTypes)
  if isGetter then
    if !patterns.isEmpty then note .getterParameters place
  else
    if patterns.length ≠ 1 then note .setterParameters place
    if let .mk .rest start _ :: _ := patterns then note .restInSetter start
  return found

end ScriptBundle.Script.P
