import ScriptBundle.Script.Grammar.Declarations

/-! Statements. -/
namespace ScriptBundle.Script.P

variable (parse : Reader)

/-- A statement that stands alone where a declaration may not. -/
def single : P Node := within (fun c => { c with allowsUsing := false }) (parse (.statement false))

def loopBody : P Node := within (fun c => { c with
  allowsBreak := true
  allowsContinue := true }) (single parse)

def parenthesised : P Node := do
  expectSign "("
  let found ← allowingIn (expression parse)
  expectSign ")"
  return found

/-- A jump out of a loop or to its next round. -/
def jump (isBreak : Bool) : P Node := do
  let start ← position
  let _ ← bump
  let target ← if ← eatSemicolon then pure none
    else do
      let name ← label
      expectSemicolon
      pure (some name)
  let isUnknown := target.any (!(← get).labels.contains ·)
  let context ← context
  if isBreak then
    if isUnknown then note .breakTarget start
    else if !context.allowsBreak then note .breakOutside start
    return .mk (.break target) start []
  else
    if !context.allowsContinue then note .continueOutside start
    else if isUnknown then note .jumpAcrossFunction start
    return .mk (.continue target) start []

def doWhileLoop : P Node := do
  let start ← position
  let _ ← bump
  let body ← loopBody parse
  expectWord "while"
  let test ← parenthesised parse
  let _ ← eatSemicolon
  return .mk .doWhile start [body, test]

def whileLoop : P Node := do
  let start ← position
  let _ ← bump
  let test ← parenthesised parse
  return .mk .while start [test, ← loopBody parse]

/-- The head of a loop that names what it goes through: the kind of the loop and two parts. -/
def eachHead (isAwait : Bool) (head : Node) : P (Kind × List Node) := do
  let isOf ← isWord "of"
  let _ ← bump
  if isOf then return (.forOf isAwait, [head, ← allowingIn (parse .assignment)])
  if head.kind matches .using _ then note .usingNotAllowed head.offset
  return (.forIn, [head, ← allowingIn (expression parse)])

/-- The rest of the head of a loop with a start, a test and a step. -/
def plainHead (first : Node) : P (Kind × List Node) := do
  let test ← if ← eatSign ";" then pure .absent
    else do
      let test ← allowingIn (expression parse)
      expectSign ";"
      pure test
  let step ← if ← isSign ")" then pure .absent else allowingIn (expression parse)
  return (.forLoop, [first, test, step])

/-- Notes what is wrong with variables that a loop binds anew in each round. -/
def checkEach (declaration : Node) (isTyped : Bool) : P Unit := do
  match declaration.parts with
  | [.mk .declarator _ [pattern, value]] =>
    if !value.isAbsent then note .initializedLoopVariable pattern.offset
    if isTyped then note .loopHeadAnnotated pattern.offset
  | several => for one in several.drop 1 do note .manyLoopVariables one.offset

def forHead (isAwait : Bool) : P (Kind × List Node) := do
  if (← isAnyWord ["const", "var"]) || (← beginsLet) then
    let (declaration, isTyped) ← headVariables parse
    if ← isAnyWord ["of", "in"] then
      checkEach declaration isTyped
      return ← eachHead parse isAwait declaration
    expectSign ";"
    return ← plainHead parse declaration
  if ← eatSign ";" then return ← plainHead parse .absent
  let first ← within (fun c => { c with allowsIn := false }) (expression parse)
  let isAwaitUsing := match first with
    | .mk .await _ [.mk (.identifier "using" _) _ _] => true
    | _ => false
  if (first.name? == some "using" || isAwaitUsing) && !(← isWord "of") &&
      (← next (isAnyWord ["of", "in"])) then
    let name ← boundName
    let declaration := Node.mk (.using isAwaitUsing) first.offset
      [.mk .declarator name.offset [name, .absent]]
    let _ ← present
    return ← eachHead parse isAwait declaration
  if ← isAnyWord ["of", "in"] then
    let pattern ← parse (.asPattern .assignment first)
    if ← isWord "in" then
      if pattern.kind == .arrayPattern || pattern.kind == .objectPattern then
        note .loopHeadPattern pattern.offset
    return ← eachHead parse isAwait pattern
  expectSign ";"
  checkDefaults first
  plainHead parse first

def forLoop : P Node := do
  let start ← position
  let _ ← bump
  let awaitAt ← position
  let isAwait ← eatWord "await"
  expectSign "("
  let (kind, parts) ← within (fun c => { c with
    inForHead := true
    inForAwaitHead := isAwait }) (forHead parse isAwait)
  expectSign ")"
  let body ← loopBody parse
  if isAwait && kind != .forOf true then fail .awaitForStatement awaitAt
  return .mk kind start (parts ++ [body])

def ifStatement : P Node := do
  let start ← position
  let _ ← bump
  let test ← parenthesised parse
  let yes ← single parse
  let no ← if ← eatWord "else" then single parse else pure .absent
  return .mk .ifElse start [test, yes, no]

def returnStatement : P Node := do
  let start ← position
  let _ ← bump
  let value ← if ← endsStatement then pure .absent else allowingIn (expression parse)
  expectSemicolon
  if !(← context).inFunction then note .returnNotAllowed start
  return .mk .return start [value]

def throwStatement : P Node := do
  let start ← position
  let _ ← bump
  if ← isAfterLine then failHere .throwLineBreak
  let value ← allowingIn (expression parse)
  expectSemicolon
  return .mk .throw start [value]

/-- A case of a switch, whose statements end where the next case begins. -/
def switchCase (defaultAt : Option Nat) : P Node := do
  let start ← position
  let test ← if ← eatWord "case" then allowingIn (expression parse)
    else do
      let _ ← bump
      if defaultAt.isSome then failHere .multipleDefaults
      pure .absent
  expectSign ":"
  let mut found := #[]
  for _ in [0 : ← bound] do
    if (← atEnd) || (← isAnyWord ["case", "default"]) || (← isSign "\x7d") then break
    found := found.push (← parse (.statement true))
  return .mk .case start (test :: found.toList)

def switchStatement : P Node := do
  let start ← position
  let _ ← bump
  let subject ← parenthesised parse
  expectSign "\x7b"
  let mut found := #[]
  let mut defaultAt : Option Nat := none
  for _ in [0 : ← bound] do
    if !(← isAnyWord ["case", "default"]) then break
    let defaultNow ← do
      if ← isWord "default" then some <$> position else pure defaultAt
    found := found.push
      (← within (fun c => { c with allowsBreak := true }) (switchCase parse defaultAt))
    defaultAt := defaultNow
  expectSign "\x7d"
  return .mk .switch start (subject :: found.toList)

/-- The part of a statement that handles what was thrown, if it follows. -/
def catchClause? : P Node := do
  let start ← position
  if !(← eatWord "catch") then return .absent
  let pattern ← if ← eatSign "(" then do
      let pattern ← parse .bindingTarget
      let (_, types) ← keepingTypes (annotation? parse)
      expectSign ")"
      pure (pattern.extended types)
    else pure .absent
  return .mk .catch start [pattern, ← block parse]

def finallyBlock? : P Node := do if ← eatWord "finally" then block parse else return .absent

def tryStatement : P Node := do
  let start ← position
  let _ ← bump
  let body ← block parse
  let place ← position
  let handler ← catchClause? parse
  let last ← finallyBlock? parse
  if handler.isAbsent && last.isAbsent then note .missingSemicolon place
  return .mk .try start [body, handler, last]

/-- A handler without what it belongs to. It is complained about and skipped. -/
def strayHandler : P Node := do
  let start ← position
  noteHere .missingSemicolon
  recover (do let _ ← catchClause? parse) fun _ => pure ()
  recover (do let _ ← finallyBlock? parse) fun _ => pure ()
  return .mk .expression start [.mk .invalid start []]

/-- A statement after its label. -/
def labeled (start : Nat) (label : String) : P Node :=
  within (fun c => { c with
    allowsBreak := true
    allowsUsing := false }) do
  let before := (← get).labels
  modify fun s => { s with labels := label :: s.labels }
  let body ← if ← isWord "function" then do
      let place ← position
      let function ← functionDeclaration parse place false false
      note .labelledFunction place
      if let .mk _ _ [_, .mk (.function isAsync isGenerator) _ _] := function then
        if isAsync || isGenerator then note .labelledGenerator place
      pure function
    else parse (.statement false)
  for known in before do
    if known = label then note (.duplicateLabel label) start
  modify fun s => { s with labels := before }
  return .mk (.labeled label) start [body]

/-- A statement that begins with `await`. -/
def awaitStatement : P Node := do
  let start ← position
  let _ ← bump
  if ← isWord "using" then
    if let some declaration ← usingDeclaration? parse start true then return declaration
  let value ← awaitRest parse start
  let value ← allowingIn (parse (.operators value 0))
  let _ ← eatSemicolon
  return .mk .expression start [value]

/-- A statement that begins with an expression: that expression, a label, or a declaration that a
word begins which is no keyword everywhere. -/
def expressionStatement : P Node := do
  let start ← position
  let found ← allowingIn (expression parse)
  if let .mk (.identifier name _) _ _ := found then
    if ← eatSign ":" then return ← labeled parse start name
    if name = "interface" && (← isAfterLine) then
      note (.reservedInStrict name) start
      let _ ← eatSemicolon
      return .mk .expression start [found]
    if let some declaration ← declarationAfter? parse start name then return declaration
    if name = "enum" || name = "interface" then note (.reservedInStrict name) start
  else checkDefaults found
  if ← eatSemicolon then return .mk .expression start [found]
  match ← present with
  | .sign text =>
    if (precedence? text).isSome then
      noteHere .missingSemicolon
      return .mk .expression start [← parse (.operators found 0)]
    else failHere .expectedSemicolon
  | _ => failHere .expectedSemicolon

/-- A statement that begins with a keyword, if one does. -/
def keywordStatement? (allowsDeclaration allowsAwait : Bool) (start : Nat) (text : String) :
    P (Option Node) := do
  let onLine : P Bool := nextOnLine isName
  match text with
  | "await" => if allowsDeclaration || allowsAwait then return some (← awaitStatement parse)
  | "break" => return some (← jump true)
  | "continue" => return some (← jump false)
  | "debugger" =>
    let _ ← bump
    expectSemicolon
    return some (.mk .debugger start [])
  | "do" => return some (← doWhileLoop parse)
  | "for" => return some (← forLoop parse)
  | "function" =>
    if !allowsDeclaration then noteHere .declarationNotAllowed
    return some (← functionDeclaration parse start false false)
  | "class" =>
    if !allowsDeclaration then noteHere .declarationNotAllowed
    return some (← classDeclaration parse start false false)
  | "if" => return some (← ifStatement parse)
  | "return" => return some (← returnStatement parse)
  | "switch" => return some (← switchStatement parse)
  | "throw" => return some (← throwStatement parse)
  | "catch" | "finally" => return some (← strayHandler parse)
  | "try" => return some (← tryStatement parse)
  | "with" =>
    noteHere .withStatement
    failHere .withInStrict
  | "while" => return some (← whileLoop parse)
  | "var" => return some (← variableList parse false)
  | "const" =>
    if ← next (isWord "enum") then
      let _ ← bump
      let _ ← bump
      return some (← enumeration parse start true false)
    if allowsDeclaration then return some (← variableList parse false)
  | "let" => if allowsDeclaration && (← beginsLet) then return some (← variableList parse false)
  | "using" => if allowsDeclaration then return ← usingDeclaration? parse start false
  | "interface" =>
    if ← onLine then
      let _ ← bump
      return some (← interfaceDeclaration parse start)
  | "type" =>
    if ← onLine then
      let _ ← bump
      return some (← typeAlias parse start)
  | "enum" =>
    if ← onLine then
      let _ ← bump
      return some (← enumeration parse start false false)
  | "async" =>
    if ← beginsAsyncFunction then
      let _ ← bump
      return some (← functionDeclaration parse start true false)
  | _ => pure ()
  return none

/-- A statement that is no item of a module. -/
def plainStatement (allowsDeclaration allowsAwait : Bool) : P Node :=
  within (fun c => { c with awaitsColon := false }) do
  let start ← position
  match ← present with
  | .sign "\x7b" => within (fun c => { c with allowsUsing := true }) (block parse)
  | .sign ";" =>
    let _ ← bump
    return .mk .empty start []
  | .word text =>
    match ← keywordStatement? parse allowsDeclaration allowsAwait start text with
    | some statement => return statement
    | none => expressionStatement parse
  | _ => expressionStatement parse

/-- A statement inside of another one, where imports are only expressions. -/
def statement (allowsDeclaration : Bool) : P Node := do
  if ← isWord "import" then
    if ← next (isAnySign ["(", "."]) then
      let start ← position
      let found ← expression parse
      let _ ← eatSemicolon
      return .mk .expression start [found]
    failHere .importOutsideModule
  if ← isWord "export" then failHere .importOutsideModule
  plainStatement parse allowsDeclaration false

end ScriptBundle.Script.P
