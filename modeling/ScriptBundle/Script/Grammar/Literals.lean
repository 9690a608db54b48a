import ScriptBundle.Script.Grammar.Functions
import ScriptBundle.Script.Grammar.Operators

/-! Literals that have parts: arrays, objects, templates and regular expressions. -/
namespace ScriptBundle.Script.P

variable (parse : Reader)

/-- Remembers a comma before the end of a literal, which a pattern may not have after a rest. -/
def rememberComma (start : Nat) : P Unit := do
  let comma ← previousStart
  modify fun s => { s with trailingCommas := (start, comma) :: s.trailingCommas }

def array : P Node := within (fun c => { c with awaitsColon := false }) do
  let start ← position
  let _ ← bump
  let mut elements : Array Node := #[]
  for _ in [0 : ← bound] do
    if (← atEnd) || (← isSign "]") then break
    if ← eatSign "," then
      elements := elements.push .absent
      continue
    elements := elements.push (← allowingIn (element parse))
    if !(← isSign "]") then
      expectSign ","
      if ← isSign "]" then rememberComma start
  expectSign "]"
  return .mk .array start elements.toList

/-- A function as a property of an object, after the name. -/
def methodOf (start : Nat) (key : Node) (kind : MethodKind) (isAsync isGenerator : Bool) :
    P Node := do
  let readParameters := match kind with
    | .plain => parameters parse
    | .getter => accessorParameters parse true key.offset
    | .setter => accessorParameters parse false key.offset
  let function ← within (fun c => { c with
    allowsSuper := true
    inField := false }) (functionParts parse isAsync isGenerator readParameters)
  return .mk (.method kind) start [key, function.ofProperty kind]

/-- Whether the current token may follow the name of a property. -/
def followsPropertyName (key : Node) : P Bool := do
  if ← isAnySign ["(", "[", ":", ",", "?", "=", "*", "<"] then return true
  match ← token with
  | .word _ | .string .. | .number _ | .bigint _ => return true
  | .sign "\x7d" =>
    match key.kind with
    | .word _ => return true
    | _ => return false
  | _ => return false

/-- A property whose name was a word, and whose value is neither after a colon nor a function. -/
def wordProperty (start : Nat) (text : String) (place : Nat) (modifierAt : Option Nat) :
    P Node := do
  if ← eatSign "?" then note .optionalMember (← previousStart)
  if ← isAnySign ["=", ",", "\x7d"] then
    if isReserved text then note .reservedShorthand place
    let name := Node.mk (.identifier text .unknown) place []
    let value ← if ← eatSign "=" then allowingIn (parse .assignment) else pure .absent
    return .mk .shorthand start [name, value]
  let kind? : Option MethodKind := match text with
    | "get" => some .getter
    | "set" => some .setter
    | "async" => some .plain
    | _ => none
  match kind? with
  | some kind =>
    if let some place := modifierAt then note .modifierHere place
    let isGenerator ← if kind = .plain then eatSign "*" else pure false
    let key ← propertyKey parse
    methodOf parse start key kind (kind = .plain) isGenerator
  | none =>
    unexpected "... , *,  (, [, :, , ?, =, an identifier, public, protected, private, readonly, <."

/-- A property of an object. -/
def property : P Node := do
  let start ← position
  if ← eatSign "..." then return .mk .spread start [← allowingIn (parse .assignment)]
  if ← eatSign "*" then
    let key ← propertyKey parse
    return ← methodOf parse start key .plain false true
  let modifierAt ← if ← parameterModifier then some <$> previousStart else pure none
  let key ← propertyKey parse
  if !(← followsPropertyName key) then
    noteHere .missingSemicolon
    return .mk .property start [key, .mk .invalid start []]
  if ← eatSign ":" then
    return .mk .property start [key, ← allowingIn (parse .assignment)]
  if ← isAnySign ["(", "<"] then return ← methodOf parse start key .plain false false
  match key with
  | .mk (.word text) place _ => wordProperty parse start text place modifierAt
  | _ => unexpected "identifier"

def object : P Node := within (fun c => { c with awaitsColon := false }) do
  let start ← position
  let _ ← bump
  let mut properties : Array Node := #[]
  for _ in [0 : ← bound] do
    if ← eatSign "\x7d" then break
    properties := properties.push (← property parse)
    if !(← isSign "\x7d") then
      expectSign ","
      if ← isSign "\x7d" then rememberComma start
  return .mk .object start properties.toList

/-- A template. Only a tagged one may have escapes that mean nothing. -/
def template (isTagged : Bool) : P Node := within (fun c => { c with awaitsColon := false }) do
  let start ← position
  let _ ← bump
  let mut parts : Array Node := #[]
  for _ in [0 : ← bound] do
    let place := (← get).cursor.offset
    let (raw, cooked, ending) ← scan (Scan.chunk start)
    modify fun s => { s with
      previousStart := s.cursor.offset - 1
      previousStop := s.cursor.offset }
    match cooked with
    | .ok text => parts := parts.push (.mk (.chunk raw (some text)) place [])
    | .error complaint =>
      if isTagged then parts := parts.push (.mk (.chunk raw none) place [])
      else throw complaint
    if ending = .quote then break
    parts := parts.push (← allowingIn (expression parse))
    expectSign "\x7d"
  return .mk .template start parts.toList

/-- A flag that stands more than once among others. -/
def repeatedFlag? : List Char → Option Char
  | [] => none
  | flag :: more => if more.contains flag then some flag else repeatedFlag? more

def regularExpression (pattern flags : String) : P Node := do
  let start ← position
  let _ ← bump
  let known := "dgimsuvy".toList
  if flags.toList.any (!known.contains ·) then note .unknownRegexFlag start
  if let some flag := repeatedFlag? flags.toList then note (.repeatedRegexFlag flag) start
  return .mk (.regex pattern flags) start []

end ScriptBundle.Script.P
