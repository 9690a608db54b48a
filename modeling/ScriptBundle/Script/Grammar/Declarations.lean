import ScriptBundle.Script.Grammar.Expressions

/-! Declarations: variables, enumerations, namespaces, and what is only declared to be there. -/
namespace ScriptBundle.Script.P

variable (parse : Reader)

/-- Notes properties with a default in an expression that turned out to be no pattern. -/
def checkDefaults : Node → P Unit
  | .mk .functionExpression _ _ | .mk (.arrow _) _ _ | .mk (.types _) _ _ => pure ()
  | .mk .object _ properties => checkProperties properties
  | .mk (.assign _) _ [_, value] => checkDefaults value
  | .mk _ _ parts => checkAll parts
where
  checkAll : List Node → P Unit
    | [] => pure ()
    | one :: more => do
      checkDefaults one
      checkAll more
  checkProperties : List Node → P Unit
    | [] => pure ()
    | .mk .shorthand place parts :: more => do
      if (parts.getLastD .absent).isAbsent then pure () else note .shorthandWithDefault place
      checkProperties more
    | one :: more => do
      checkDefaults one
      checkProperties more

/-- A variable of a declaration, and whether its type stands after its name. -/
def declarator (inHead : Bool) (binding : Binding) : P (Node × Bool) := do
  let start ← position
  let pattern ← parse .bindingTarget
  if pattern.name?.isSome then
    let _ ← eatSign "!"
  let (isTyped, types) ← keepingTypes (annotation? parse)
  let pattern := pattern.extended types
  let isLoop ← if inHead then isAnyWord ["in", "of"] else pure false
  if isLoop then return (.mk .declarator start [pattern, .absent], isTyped)
  if ← eatSign "=" then
    let value ← parse .assignment
    checkDefaults value
    return (.mk .declarator start [pattern, value], isTyped)
  if !(← context).inAmbient then
    if binding = .const && !inHead then note .constWithoutValue start
    else if pattern.name?.isNone then note .patternWithoutValue start
  return (.mk .declarator start [pattern, .absent], isTyped)

/-- Whether the head of a loop names no variable. -/
def isEmptyHead : P Bool := do
  if !(← isAnyWord ["in", "of"]) then return false
  foresees do
    let _ ← bump
    let _ ← parse .assignment
    return ← isSign ")"

/-- The variables of a declaration, and whether the first one's type stands after its name. -/
def declarators (inHead : Bool) (binding : Binding) : P (List Node × Bool) := do
  let word ← previousStart
  let end_ := word + binding.word.length
  let mut found := #[]
  let mut isTyped := false
  for _ in [0 : ← bound] do
    if (← isSign ";") || (← atEnd) then
      let place ← previousStart
      note .trailingComma (if place = word then end_ else place)
      break
    let allowsIn ← do
      if binding = .var && inHead then pure (← context).allowsIn else pure true
    let (one, typed) ← within (fun c => { c with allowsIn := allowsIn })
      (declarator parse inHead binding)
    if found.isEmpty then isTyped := typed
    found := found.push one
    if !(← eatSign ",") then break
  return (found.toList, isTyped)

/-- Skips the rest of a declaration that does not end where it should. -/
def skipDeclaration : P Unit := do
  noteHere .missingSemicolon
  recover (do let _ ← expression parse) fun _ => pure ()
  for _ in [0 : ← bound] do
    if ← eatSemicolon then break
    let _ ← bump
    if let .wrong _ ← token then break

/-- The word that says how variables are bound. -/
def bindingWord : P Binding := do
  match ← bump with
  | .word "let" => return .let
  | .word "const" => return .const
  | _ => return .var

/-- A declaration of variables as a statement. -/
def variableList (isDeclared : Bool) : P Node := do
  let start ← position
  let binding ← bindingWord
  let (found, _) ← declarators parse false binding
  if !(← eatSemicolon) then skipDeclaration parse
  return .mk (.variableList binding isDeclared) start found

/-- A declaration of variables at the head of a loop, and whether the first has a type. -/
def headVariables : P (Node × Bool) := do
  let start ← position
  let binding ← bindingWord
  if ← isEmptyHead parse then
    note .emptyVariableList (start + binding.word.length)
    return (.mk (.variableList binding false) start [], false)
  let (found, isTyped) ← declarators parse true binding
  return (.mk (.variableList binding false) start found, isTyped)

/-- Whether the word `let` begins a declaration. -/
def beginsLet : P Bool := do
  if !(← isWord "let") then return false
  next do
    match ← token with
    | .word text => return !keywords.contains text
    | .sign text => return text = "[" || text = "\x7b"
    | _ => return false

/-- A declaration of resources, if one begins at the word `using`. -/
def usingDeclaration? (start : Nat) (isAwait : Bool) : P (Option Node) := do
  if !(← isWord "using") || !(← nextOnLine isReference) then return none
  let _ ← bump
  let mut found := #[]
  for _ in [0 : ← bound] do
    if (← isSign ";") || (← atEnd) then
      note .trailingComma (← previousStart)
      break
    let (one, _) ← declarator parse false .var
    found := found.push one
    if !(← eatSign ",") then break
  if !(← context).allowsUsing then note .usingNotAllowed start
  for one in found do
    match one with
    | .mk _ _ [pattern, value] =>
      if pattern.name?.isNone then note .usingBinding start
      if value.isAbsent then note .usingInitializer start
    | _ => pure ()
  return some (.mk (.using isAwait) start found.toList)

/-- The name of a member of an enumeration. -/
def enumeratorKey : P Node := do
  let start ← position
  match ← present with
  | .string .. => return (← literal?).getD .absent
  | .number text =>
    let _ ← bump
    note .enumNumericName start
    return .mk (.string text none) start []
  | .sign "[" =>
    let _ ← bump
    let key ← expression parse
    expectSign "]"
    match key with
    | .mk (.string ..) _ _ => return key
    | .mk .template _ [.mk (.chunk _ (some text)) place _] => return .mk (.string text none) place []
    | _ =>
      note .enumComputedName start
      return .mk (.word "") start []
  | _ => word

def enumerator : P Node := do
  let start ← position
  let key ← enumeratorKey parse
  if ← eatSign "=" then return .mk .enumerator start [key, ← parse .assignment]
  if !(← isAnySign [",", "\x7d"]) then
    let lexeme ← lexeme
    let place ← position
    let _ ← bump
    modify fun s => { s with
      current := some { lexeme with token := .sign "," }
      cursor := if s.current.isNone then s.cursor else s.cursor }
    note .missingSemicolon place
  return .mk .enumerator start [key, .absent]

/-- An enumeration after its keywords. -/
def enumeration (start : Nat) (isConst isDeclared : Bool) : P Node := do
  let name ← anyIdentifier
  expectSign "\x7b"
  let mut found := #[]
  for _ in [0 : ← bound] do
    if ← isSign "\x7d" then break
    found := found.push (← enumerator parse)
    if ← eatSign "," then continue
    if ← isSign "\x7d" then break
    expectSign ","
  expectSign "\x7d"
  return .mk (.enum isConst isDeclared) start (name :: found.toList)

/-- Items up to the closing brace, which is read too. -/
def itemBlock : P Node := do
  let start ← position
  expectSign "\x7b"
  let mut found := #[]
  for _ in [0 : ← bound] do
    if ← atEnd then
      noteHere (.expected "\x7d" (← shown))
      break
    if ← eatSign "\x7d" then break
    found := found.push (← parse .moduleItem)
  return .mk .namespaceBlock start found.toList

/-- A namespace after its keyword. One whose name has dots stands for namespaces in each other. -/
def namespaceDeclaration (start : Nat) (isDeclared : Bool) : P Node := do
  let mut names := #[← anyIdentifier]
  for _ in [0 : ← bound] do
    if !(← eatSign ".") then break
    names := names.push (← anyIdentifier)
  let block ← itemBlock parse
  let inner := names.toList.tail.foldr
    (fun name body => .mk (.namespace false false) name.offset [name, body]) block
  return .mk (.namespace isDeclared false) start [names.toList.headD .absent, inner]

/-- The declaration of another module, or of what is global. -/
def ambientModule (start : Nat) (isDeclared : Bool) : P Node := do
  let isGlobal ← isWord "global"
  let name ← if isGlobal then anyIdentifier
    else match ← present with
      | .string .. => do pure ((← literal?).getD .absent)
      | _ => unexpected "global or a string literal"
  let body ← if ← isSign "\x7b" then itemBlock parse
    else do
      expectSemicolon
      pure .absent
  return .mk (.namespace isDeclared isGlobal) start [name, body]

/-- A declaration that a word begins which is no keyword everywhere. The word is still to be read
if `isNext`, and then it decides alone. -/
def wordDeclaration? (start : Nat) (text : String) (isNext isDeclared : Bool) :
    P (Option Node) := do
  let skip : P Unit := do
    if isNext then
      let _ ← bump
  match text with
  | "abstract" =>
    if isNext || ((← isWord "class") && !(← isAfterLine)) then
      skip
      return some (← classDeclaration parse start true isDeclared)
  | "enum" =>
    if isNext || (← isReference) then
      skip
      return some (← enumeration parse start false isDeclared)
  | "interface" =>
    if isNext || (← isReference) then
      skip
      return some (← interfaceDeclaration parse start)
  | "module" =>
    skip
    if ← isString then return some (← ambientModule parse start isDeclared)
    if isNext || (← isReference) then
      return some (← namespaceDeclaration parse start isDeclared)
  | "namespace" =>
    if isNext || (← isReference) then
      skip
      return some (← namespaceDeclaration parse start isDeclared)
  | "type" =>
    if isNext || (!(← isAfterLine) && (← isReference)) then
      skip
      return some (← typeAlias parse start)
  | _ => pure ()
  return none

/-- What is only declared to be there, after the word that says so. -/
def ambientDeclaration? (start : Nat) : P (Option Node) := do
  if (← context).inAmbient then note .declareInAmbient start
  within (fun c => { c with inAmbient := true }) do
    match ← token with
    | .word "function" => return some (← functionDeclaration parse start false true)
    | .word "class" => return some (← classDeclaration parse start false true)
    | .word "const" | .word "var" | .word "let" =>
      if ← next (isWord "enum") then
        let _ ← bump
        let _ ← bump
        return some (← enumeration parse start true true)
      else return some (← variableList parse true)
    | .word "global" => return some (← ambientModule parse start true)
    | .word text => wordDeclaration? parse start text true true
    | _ => return none

/-- A declaration that the word before the current token begins, if it does. -/
def declarationAfter? (start : Nat) (text : String) : P (Option Node) := do
  match text with
  | "declare" => ambientDeclaration? parse start
  | "global" =>
    if ← isSign "\x7b" then
      let name := Node.mk (.identifier "global" .unknown) start []
      return some (.mk (.namespace false true) start [name, ← itemBlock parse])
    else return none
  | _ => wordDeclaration? parse start text false false

end ScriptBundle.Script.P
