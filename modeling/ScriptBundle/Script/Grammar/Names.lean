import ScriptBundle.Script.Grammar.State

/-! Names, literals, modifiers and annotations of types. -/
namespace ScriptBundle.Script.P

/-- Any word, as the name of a property. -/
def anyName : P String := do
  match ← present with
  | .word text =>
    let _ ← bump
    return text
  | _ => failHere .expectedIdentifier

/-- Any word as a node. -/
def word : P Node := do
  let start ← position
  return .mk (.word (← anyName)) start []

/-- A word as an identifier whatever the word is. -/
def anyIdentifier : P Node := do
  let start ← position
  return .mk (.identifier (← anyName) .unknown) start []

/-- A name that may be bound or referred to. -/
def identifierText (allowsAwait : Bool) : P String := do
  let place ← place
  let text ← match ← present with
    | .word text =>
      let _ ← bump
      pure text
    | _ => failHere .expectedIdentifier
  let context ← context
  if ["enum", "yield", "let", "static", "implements", "interface", "package", "private",
      "protected", "public"].contains text then
    note (.reservedInStrict text) place
  if text = "await" then
    if context.inAmbient then return text
    else if context.inAsync || !allowsAwait then fail .awaitAsName place
    else
      note .awaitAsName place
      return text
  if text = "arguments" && context.inField then note .argumentsInField place
  if text = "this" then return text
  if keywords.contains text then fail .expectedIdentifier place
  return text

def identifier (allowsAwait : Bool) : P Node := do
  let start ← position
  return .mk (.identifier (← identifierText allowsAwait) .unknown) start []

/-- A name that a declaration binds. -/
def boundName : P Node := do
  let start ← position
  let text ← identifierText true
  let context ← context
  if isUnbindable text then note .evalOrArguments start
  if (context.inAsync || context.inStaticBlock) && text = "await" then
    note .expectedIdentifier start
  if context.inGenerator && text = "yield" then note .expectedIdentifier start
  return .mk (.identifier text .unknown) start []

/-- A label, which is any name that may be referred to. -/
def label : P String := identifierText false

/-- The name of a member: a word, or a private name. -/
def memberName : P Node := do
  let start ← position
  if ← eatSign "#" then
    let text ← anyName
    return .mk (.privateName text) start []
  else word

/-- A literal that is one token. -/
def literal? : P (Option Node) := do
  let start ← position
  let kind? : Option Kind := match ← token with
    | .string value raw => some (.string value (some raw))
    | .number text => some (.number text)
    | .bigint text => some (.bigint text)
    | .word "true" => some (.boolean true)
    | .word "false" => some (.boolean false)
    | .word "null" => some .null
    | _ => none
  match kind? with
  | some kind =>
    let _ ← bump
    return some (.mk kind start [])
  | none => return none

/-- The string literal that a source of a module is. -/
def sourceString : P Node := do
  let start ← position
  match ← present with
  | .string value raw =>
    let _ ← bump
    return .mk (.string value (some raw)) start []
  | _ => unexpected "a string literal"

/-- Whether the current token may follow a modifier. -/
def followsModifier : P Bool := do
  if (← lexeme).isAfterLine then return false
  match ← token with
  | .sign text => return ["[", "\x7b", "*", "...", "#"].contains text
  | .word _ | .string .. | .number _ | .bigint _ => return true
  | _ => return false

/-- One of some modifiers, if what follows lets it be one. -/
def modifier? (words : List String) (stopsAtStaticBlock : Bool) : P (Option String) := do
  match ← token with
  | .finish => throw ⟨.endOfInput, (← get).previousStop⟩
  | .word text =>
    if !words.contains text then return none
    if stopsAtStaticBlock && text = "static" && (← next (isSign "\x7b")) then return none
    if ← next followsModifier then
      let _ ← bump
      return some text
    else return none
  | _ => return none

/-- A modifier of a parameter, and whether there was one. -/
def parameterModifier : P Bool := do
  if ← atEnd then throw ⟨.endOfInput, (← get).previousStop⟩
  let words := ["public", "protected", "private", "readonly"]
  if (← isAnyWord words) &&
      (← next do return (← isName) || (← isAnySign ["\x7b", "["])) then
    let _ ← modifier? words false
    return true
  else return false

section

variable {α : Type} (parse : Reader)

/-- Reads where types stand. -/
def inType (p : P α) : P α := within (fun c => { c with inType := true, readsShifts := false }) p

def allowingIn (p : P α) : P α := within (fun c => { c with allowsIn := true }) p

def type : P Unit := do let _ ← inType (parse .type)

/-- Remembers a name that a type binds. -/
def keepTypeName (name : String) : P Unit :=
  modify fun s => { s with typeNames := name :: s.typeNames }

/-- Remembers what stands in a type. -/
def keepInType (found : List Node) : P Unit :=
  modify fun s => { s with typeExpressions := found.reverse ++ s.typeExpressions }

/-- Reads, and gives the expressions in the types that were read as well. -/
def withTypeExpressions (p : P α) : P (α × List Node) := do
  let before := (← get).typeExpressions
  modify fun s => { s with typeExpressions := [] }
  let result ← p
  let found := (← get).typeExpressions.reverse
  modify fun s => { s with typeExpressions := before }
  return (result, found)

/-- Reads, and gives what is left of the types that were read as well: one part of a tree, or none. -/
def keepingTypes (p : P α) : P (α × List Node) := do
  let start := (← get).previousStop
  let before := (← get).typeNames
  modify fun s => { s with typeNames := [] }
  let (result, found) ← withTypeExpressions p
  let names := (← get).typeNames.reverse
  modify fun s => { s with typeNames := before }
  if names.isEmpty && found.isEmpty then return (result, [])
  else return (result, [.mk (.types names) start found])

/-- Reads a type whose parameters are only its own. -/
def enclosed (p : P Unit) : P Unit := do keepInType (← keepingTypes p).2

/-- A colon and a type. -/
def annotation : P Unit := inType do
  let _ ← bump
  let _ ← parse .type

def annotation? : P Bool := do
  if ← isSign ":" then
    annotation parse
    return true
  else return false

/-- The current token as an option, for complaints that show it so. -/
def shownOption : P String := do
  match ← token with
  | .finish => return "None"
  | token => return "Some(" ++ token.shown ++ ")"

/-- The type that a function gives, after the given sign: a type, or what the function says of
its argument. -/
def resultType (sign : String) : P Unit := inType do
  if !(← eatSign sign) then failHere (.expected sign (← shownOption))
  let isAssertion ← do
    if ← isWord "asserts" then nextOnLine do return (← isReference) || (← isWord "this")
    else pure false
  if isAssertion then
    let _ ← bump
  let isPredicate ← do
    if (← isReference) || (← isWord "this") then nextOnLine (isWord "is") else pure false
  if isAssertion || isPredicate then
    let _ ← anyName
    if isPredicate then
      let _ ← bump
      let _ ← parse .type
  else
    let _ ← parse .type

/-- Items with commas between them up to a sign that ends them. -/
def delimited (isLast : P Bool) (item : P Unit) : P Unit := do
  for _ in [0 : ← bound] do
    if ← isLast then break
    item
    if ← eatSign "," then continue
    if ← isLast then break
    expectSign ","

/-- The arguments of a generic name. -/
def typeArguments : P Unit := do
  inType do
    if ← isSign "<<" then
      modify fun s => { s with current := s.current.map fun l =>
        { l with token := .sign "<", start := l.start + 1 } }
    else expectSign "<"
    delimited (isSign ">") do let _ ← parse .type
  expectSign ">"

/-- The parameters of a generic declaration. -/
def typeParameters : P Unit := do
  inType do
    let start ← place
    if !(← eatSign "<") then unexpected "< (jsx tag start)"
    if ← isSign ">" then note .emptyTypeParameters start
    delimited (isSign ">") do
      for _ in [0 : ← bound] do
        if (← modifier? ["public", "private", "protected", "readonly", "abstract", "const",
            "override", "in", "out"] false).isNone then break
      keepTypeName (← anyName)
      if ← eatWord "extends" then
        let _ ← parse .type
      if ← eatSign "=" then
        let _ ← parse .type
    expectSign ">"

def typeParameters? : P Bool := do
  if ← isSign "<" then
    typeParameters parse
    return true
  else return false

end

end ScriptBundle.Script.P
