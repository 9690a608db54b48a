import ScriptBundle.Script.Grammar.Statements

/-! Items of modules: imports, exports and statements. In lists of names the word `type` may be a
name itself or say that what follows it names a type; the words after it decide. -/
namespace ScriptBundle.Script.P

variable (parse : Reader)

/-- The name of something that a module exports, which may be a string. -/
def exportedName : P Node := do
  match ← token with
  | .string .. => return (← literal?).getD .absent
  | .word _ => word
  | _ => unexpected "identifier or string"

/-- A word as the name that it is in the module that is read. -/
def asIdentifier : Node → Node
  | .mk (.word text) start parts => .mk (.identifier text .unknown) start parts
  | n => n

/-- What one entry of a list of names says: a name, maybe another one for it on the other side, and
whether it is only about a type. -/
structure NameEntry where
  name : Node
  alias_ : Node
  isType : Bool

/-- The rest of an entry that began with the word `type` and has another word after it. -/
def typeEntry (word : Node) (readAlias : P Node) (cause : Cause) (isTypeList : Bool) :
    P NameEntry := do
  let complain : P Unit := if isTypeList then note cause word.offset else pure ()
  let second ← P.word
  if second.kind != .word "as" then
    complain
    let other ← if ← eatWord "as" then readAlias else pure .absent
    return ⟨second, other, true⟩
  if !(← isName) then
    complain
    return ⟨second, .absent, true⟩
  let third ← readAlias
  let isAs := third.kind == .word "as" || third.name? == some "as"
  if isAs && (← isName) then
    let last ← readAlias
    complain
    return ⟨second, last, true⟩
  return ⟨word, third, false⟩

/-- An entry of a list of names. -/
def nameEntry (readAlias : P Node) (cause : Cause) (isTypeList : Bool) : P NameEntry := do
  let name ← exportedName
  if name.kind == .word "type" && (← isName) then
    return ← typeEntry name readAlias cause isTypeList
  let other ← if ← eatWord "as" then readAlias else pure .absent
  return ⟨name, other, false⟩

/-- A name that is imported. -/
def importSpecifier (isTypeList : Bool) : P Node := do
  let start ← position
  let entry ← nameEntry boundName .typeModifierOnImport isTypeList
  if let .mk (.string text _) place _ := entry.name then
    if entry.alias_.isAbsent then fail (.stringImport text) place
  if entry.alias_.isAbsent then
    return .mk (.importNamed entry.isType) start [.absent, asIdentifier entry.name]
  else return .mk (.importNamed entry.isType) start [entry.name, entry.alias_]

/-- A name that is exported. -/
def exportSpecifier (isTypeList : Bool) : P Node := do
  let start ← position
  let entry ← nameEntry exportedName .typeModifierOnExport isTypeList
  return .mk (.exportName entry.isType) start [asIdentifier entry.name, entry.alias_]

/-- Entries with commas between them up to a closing brace, which is read too. -/
def nameList (specifier : P Node) : P (List Node) := do
  let mut found := #[]
  for _ in [0 : ← bound] do
    if (← atEnd) || (← isSign "\x7d") then break
    found := found.push (← specifier)
    if ← isSign "\x7d" then break
    expectSign ","
  expectSign "\x7d"
  return found.toList

/-- What is said about how a module is to be loaded, if anything. -/
def attributes? : P Node := do
  if !(← isAfterLine) && (← isAnyWord ["assert", "with"]) then
    let _ ← bump
    if !(← isSign "\x7b") then failHere (.expected "\x7b" (← shown))
    object parse
  else return .absent

/-- The module that names come from, up to the end of the statement. -/
def sourceClause : P (Node × Node) := do
  expectWord "from"
  let source ← sourceString
  let attributes ← attributes? parse
  expectSemicolon
  return (source, attributes)

/-- What a name is made an alias of, after the name. -/
def aliasRest (start : Nat) (name : Node) (isExported isTypeOnly : Bool) : P Node := do
  expectSign "="
  let place ← position
  let target ← if (← isWord "require") && (← next (isSign "(")) then do
      let _ ← bump
      expectSign "("
      let source ← sourceString
      expectSign ")"
      pure (Node.mk .external place [source])
    else entityName false
  expectSemicolon
  return .mk (.alias isExported isTypeOnly) start [name, target]

/-- Whether the word `type` after `import` says that all is about types. -/
def saysTypeOnly (name : Node) : P Bool := do
  if name.name? != some "type" then return false
  if ← isAnySign ["*", "\x7b"] then return true
  if !(← isName) then return false
  if !(← isWord "from") then return true
  next do return (← isWord "from") || (← isSign "=")

/-- The names that an import binds in a list or all at once. -/
def importBindings (isTypeOnly : Bool) : P (List Node) := do
  let start ← position
  if ← eatSign "*" then
    expectWord "as"
    return [.mk .importNamespace start [← boundName]]
  if ← eatSign "\x7b" then nameList (importSpecifier isTypeOnly) else return []

def importItem : P Node := do
  let start ← position
  if ← next (isAnySign ["(", "."]) then
    let found ← expression parse
    let _ ← eatSemicolon
    return .mk .expression start [found]
  let _ ← bump
  if ← isString then
    let source ← sourceString
    let attributes ← attributes? parse
    expectSemicolon
    return .mk (.import false) start [source, attributes]
  let mut isTypeOnly := false
  let mut first : List Node := []
  if ← isReference then
    let mut name ← boundName
    isTypeOnly ← saysTypeOnly name
    let hasName ← if isTypeOnly then isName else pure true
    if hasName then
      if isTypeOnly then name ← boundName
      if ← isSign "=" then return ← aliasRest start name false isTypeOnly
      if !(← isWord "from") then expectSign ","
      first := [.mk .importDefault name.offset [name]]
  let bindings ← importBindings isTypeOnly
  let (source, attributes) ← sourceClause parse
  return .mk (.import isTypeOnly) start (source :: attributes :: first ++ bindings)

/-- Notes what a list of exported names may not hold without a source. -/
def checkExports : List Node → P Unit
  | [] => pure ()
  | .mk (.exportName _) _ (name :: _) :: more => do
    match name with
    | .mk (.identifier text _) place _ => if isReserved text then note (.exportNeedsSource text) place
    | .mk (.string ..) place _ => note .stringExport place
    | _ => pure ()
    checkExports more
  | _ :: more => checkExports more

/-- What is exported as the default. -/
def defaultExport (start : Nat) : P Node := do
  let place ← position
  let declared (declaration : Node) : Node := .mk .exportDefaultDeclaration start [declaration]
  if (← isWord "abstract") && (← nextOnLine (isWord "class")) then
    let _ ← bump
    let (name, body) ← classFrom parse false true
    return declared (.mk (.classDeclaration false) place [name, body])
  if ← eatWord "interface" then return declared (← interfaceDeclaration parse place)
  if ← isWord "class" then
    let (name, body) ← classFrom parse false false
    return declared (.mk (.classDeclaration false) place [name, body])
  let isAsync ← beginsAsyncFunction
  if isAsync || (← isWord "function") then
    if isAsync then
      let _ ← bump
    let (name, function) ← functionFrom parse isAsync false false
    return declared (.mk (.functionDeclaration false) place [name, function])
  let value ← allowingIn (parse .assignment)
  expectSemicolon
  return .mk .exportDefault start [value]

/-- A declaration that is exported, if one follows. -/
def exportedDeclaration? : P (Option Node) := do
  let place ← position
  if ← beginsAsyncFunction then
    let _ ← bump
    return some (← functionDeclaration parse place true false)
  match ← token with
  | .word "class" => return some (← classDeclaration parse place false false)
  | .word "function" => return some (← functionDeclaration parse place false false)
  | .word "var" => return some (← variableList parse false)
  | .word "const" =>
    if ← next (isWord "enum") then
      let _ ← bump
      let _ ← bump
      return some (← enumeration parse place true false)
    else return some (← variableList parse false)
  | .word "let" => if ← beginsLet then return some (← variableList parse false) else return none
  | _ => return none

/-- What is exported by name or all at once. -/
def namedExport (start : Nat) (isTypeOnly : Bool) : P Node := do
  let place ← position
  if ← eatSign "*" then
    if ← eatWord "as" then
      let name ← exportedName
      let (source, attributes) ← sourceClause parse
      return .mk (.exportNames isTypeOnly) start
        [source, attributes, .mk .exportNamespace place [name]]
    let (source, attributes) ← sourceClause parse
    return .mk (.exportAll isTypeOnly) start [source, attributes]
  expectSign "\x7b"
  let names ← nameList (exportSpecifier isTypeOnly)
  if ← isWord "from" then
    let (source, attributes) ← sourceClause parse
    return .mk (.exportNames isTypeOnly) start (source :: attributes :: names)
  checkExports names
  let _ ← eatSemicolon
  return .mk (.exportNames isTypeOnly) start (.absent :: .absent :: names)

/-- What is exported in a form that only types have use for. -/
def typedExport? (start : Nat) : P (Option Node) := do
  let place ← position
  if ← eatWord "declare" then
    if let some declaration ← ambientDeclaration? parse place then
      return some (.mk .exportDeclaration start [declaration])
  if let .word text ← token then
    let declaration ← attempt do
      let place ← position
      wordDeclaration? parse place text true false
    if let some declaration := declaration then
      return some (.mk .exportDeclaration start [declaration])
  if ← eatWord "import" then
    let isTypeOnly ← if ← isWord "type" then next isName else pure false
    if isTypeOnly then
      let _ ← bump
    return some (← aliasRest start (← anyIdentifier) true isTypeOnly)
  if ← eatSign "=" then
    let value ← expression parse
    expectSemicolon
    return some (.mk .exportAssignment start [value])
  if ← eatWord "as" then
    expectWord "namespace"
    let name ← identifier false
    expectSemicolon
    return some (.mk .exportAsNamespace start [name])
  return none

def exportItem : P Node := do
  let start ← position
  let _ ← bump
  let _ ← present
  if let some found ← typedExport? parse start then return found
  let isTypeOnly ← eatWord "type"
  if !isTypeOnly && (← eatWord "default") then return ← defaultExport parse start
  if let some declaration ← exportedDeclaration? parse then
    return .mk .exportDeclaration start [declaration]
  namedExport parse start isTypeOnly

/-- An item of a module or of a namespace. -/
def moduleItem : P Node := do
  if ← isWord "import" then importItem parse
  else if ← isWord "export" then exportItem parse
  else plainStatement parse true true

end ScriptBundle.Script.P
