import ScriptBundle.Script.Lexeme
import ScriptBundle.Script.Tree

/-! What the grammar works on: the source from the current token on, the circumstances that decide
which forms are allowed, and the complaints so far. A reader either gives a result or stops with a
complaint; complaints that did not stop the reading are kept in the order in which they arose. -/
namespace ScriptBundle.Script

/-- The circumstances of a place in a script. -/
structure Context where
  /-- `in` is an operator here. -/
  allowsIn : Bool
  inFunction : Bool
  inAsync : Bool
  inGenerator : Bool
  inParameters : Bool
  /-- Some function or method around is no arrow function. -/
  inPlainFunction : Bool
  allowsBreak : Bool
  allowsContinue : Bool
  inType : Bool
  /-- Angle brackets are operators although a type stands around. -/
  readsShifts : Bool
  inConditional : Bool
  /-- The colon of a conditional expression is still to come. -/
  awaitsColon : Bool
  /-- A conditional type may not stand here without parentheses. -/
  forbidsConditionalType : Bool
  inAmbient : Bool
  inClass : Bool
  hasBase : Bool
  inField : Bool
  inStaticBlock : Bool
  allowsSuper : Bool
  allowsUsing : Bool
  inForHead : Bool
  inForAwaitHead : Bool
  deriving Inhabited

/-- The circumstances at the beginning of a module. -/
def Context.top : Context where
  allowsIn := true
  inFunction := false
  inAsync := false
  inGenerator := false
  inParameters := false
  inPlainFunction := false
  allowsBreak := false
  allowsContinue := false
  inType := false
  readsShifts := false
  inConditional := false
  awaitsColon := false
  forbidsConditionalType := false
  inAmbient := false
  inClass := false
  hasBase := false
  inField := false
  inStaticBlock := false
  allowsSuper := false
  allowsUsing := true
  inForHead := false
  inForAwaitHead := false

structure State where
  cursor : Cursor
  /-- The current token, once it was looked at. -/
  current : Option Lexeme
  previousStart : Nat
  previousStop : Nat
  isFirst : Bool
  context : Context
  /-- Newest first. -/
  complaints : List Complaint
  /-- Complaints that do not stop the reading are dropped. -/
  isSilent : Bool
  labels : List String
  /-- Where an arrow function may begin. -/
  arrowStart : Option Nat
  /-- Where array literals begin that end in a comma, and where the comma stands. -/
  trailingCommas : List (Nat × Nat)
  /-- The names that types bind, and the expressions inside of types, newest first. -/
  typeNames : List String
  typeExpressions : List Node
  /-- More steps than any list in the source has items. -/
  bound : Nat

abbrev P := ExceptT Complaint (StateM State)

namespace P

variable {α : Type}

def context : P Context := do return (← get).context

def bound : P Nat := do return (← get).bound

/-- Reads under changed circumstances. -/
def within (change : Context → Context) (p : P α) : P α := fun s =>
  let (result, after) := p.run { s with context := change s.context }
  (result, { after with context := s.context })

/-- Reads the body of a function, where labels around do not count. -/
def freshly (p : P α) : P α := fun s =>
  let (result, after) := p.run { s with labels := [], arrowStart := none, trailingCommas := [] }
  (result, { after with
    labels := s.labels, arrowStart := s.arrowStart, trailingCommas := s.trailingCommas })

/-- Tries to read; where that fails or gives nothing, nothing was read. -/
def attempt (p : P (Option α)) : P (Option α) := fun s =>
  match p.run { s with isSilent := true } with
  | (.ok (some a), after) => (.ok (some a), { after with isSilent := s.isSilent })
  | _ => (.ok none, s)

/-- Looks at what follows without reading it. -/
def lookAhead (p : P α) : P (Option α) := fun s =>
  match p.run { s with isSilent := true } with
  | (.ok a, _) => (.ok (some a), s)
  | _ => (.ok none, s)

/-- Whether what follows can be read and satisfies a condition. -/
def foresees (p : P Bool) : P Bool := do return (← lookAhead p) == some true

/-- Reads, and handles what stopped the reading. -/
def recover (p : P α) (handle : Complaint → P α) : P α := tryCatch p handle

def lexeme : P Lexeme := do
  let s ← get
  match s.current with
  | some lexeme => return lexeme
  | none =>
    let inType := s.context.inType && !s.context.readsShifts
    let (lexeme, cursor) := Lexeme.next inType { s.cursor with complaints := [] } s.isFirst
    let complaints := if s.isSilent then s.complaints else cursor.complaints ++ s.complaints
    set { s with current := some lexeme, cursor, complaints, isFirst := false }
    return lexeme

def token : P Token := do return (← lexeme).token

def atEnd : P Bool := do return (← token) == .finish

/-- Goes past the current token. -/
def bump : P Token := do
  let lexeme ← lexeme
  if lexeme.token == .finish then return .finish
  modify fun s => { s with
    current := none
    previousStart := lexeme.start
    previousStop := lexeme.stop }
  return lexeme.token

/-- Where the current token begins; at the end of the source, where the last one ends. -/
def position : P Nat := do
  let lexeme ← lexeme
  if lexeme.token == .finish then return (← get).previousStop else return lexeme.start

/-- The place that a complaint about the current token names: at the end of the source, that of
the last token. -/
def place : P Nat := do
  let lexeme ← lexeme
  if lexeme.token == .finish then return (← get).previousStart else return lexeme.start

def previousStart : P Nat := do return (← get).previousStart

/-- Whether a line ends before the current token, or the source ends. -/
def isAfterLine : P Bool := do
  let lexeme ← lexeme
  return lexeme.isAfterLine || lexeme.token == .finish

def record (complaint : Complaint) : P Unit :=
  modify fun s => if s.isSilent then s else { s with complaints := complaint :: s.complaints }

/-- Records what is wrong with the current token itself, and goes past it. -/
def recordWrong : P Unit := do
  if let .wrong complaint ← token then
    let _ ← bump
    record complaint

/-- Keeps a complaint and reads on. -/
def note (cause : Cause) (place : Nat) : P Unit := do
  recordWrong
  record ⟨cause, place⟩

def noteHere (cause : Cause) : P Unit := do note cause (← place)

def fail (cause : Cause) (place : Nat) : P α := do
  recordWrong
  throw ⟨cause, place⟩

def failHere (cause : Cause) : P α := do fail cause (← place)

/-- The current token, which must be there and be one. -/
def present : P Token := do
  match ← token with
  | .finish => throw ⟨.endOfInput, (← get).previousStop⟩
  | .wrong complaint =>
    let _ ← bump
    throw complaint
  | token => return token

def shown : P String := do return (← token).shown

def unexpected (wanted : String) : P α := do failHere (.unexpected (← shown) wanted)

def isSign (text : String) : P Bool := do return (← token) == .sign text

def isWord (text : String) : P Bool := do return (← token) == .word text

def isAnyWord (texts : List String) : P Bool := do
  match ← token with
  | .word text => return texts.contains text
  | _ => return false

def isAnySign (texts : List String) : P Bool := do
  match ← token with
  | .sign text => return texts.contains text
  | _ => return false

/-- Whether the current token is any word. -/
def isName : P Bool := do return (← token).isWord

/-- Whether the current token is a word that may be a reference or be bound. -/
def isReference : P Bool := do
  match ← token with
  | .word text => return !isReserved text
  | _ => return false

def isString : P Bool := do
  match ← token with
  | .string .. => return true
  | _ => return false

def eatSign (text : String) : P Bool := do
  if ← isSign text then
    let _ ← bump
    return true
  else return false

def eatWord (text : String) : P Bool := do
  if ← isWord text then
    let _ ← bump
    return true
  else return false

def expectSign (text : String) : P Unit := do
  if !(← eatSign text) then failHere (.expected text (← shown))

def expectWord (text : String) : P Unit := do
  if !(← eatWord text) then failHere (.expected text (← shown))

/-- Whether a statement may end before the current token. -/
def endsStatement : P Bool := do return (← isAnySign [";", "\x7d"]) || (← isAfterLine)

/-- Whether a statement may end here, going past a semicolon. -/
def eatSemicolon : P Bool := do
  if ← eatSign ";" then return true
  else endsStatement

def expectSemicolon : P Unit := do
  if !(← eatSemicolon) then failHere (.expected ";" (← shown))

/-- Whether the token after the current one satisfies a condition. -/
def next (p : P Bool) : P Bool := foresees do
  let _ ← bump
  p

/-- Whether the token after the current one is on the same line and satisfies a condition. -/
def nextOnLine (p : P Bool) : P Bool := next do return !(← lexeme).isAfterLine && (← p)

/-- Lets a reader of characters read from the current place. Nothing may have been looked at. -/
def scan (s : Scan α) : P α := do
  let state ← get
  match s.run { state.cursor with complaints := [] } with
  | (.ok a, cursor) =>
    let complaints := if state.isSilent then state.complaints
      else cursor.complaints ++ state.complaints
    set { state with cursor, complaints }
    return a
  | (.error complaint, cursor) =>
    set { state with
      cursor := cursor
      previousStart := state.cursor.offset
      previousStop := cursor.offset }
    throw complaint

/-- Where an expression may begin, a slash begins a regular expression. -/
def rereadSlash : P Unit := do
  let lexeme ← lexeme
  if lexeme.token == .sign "/" || lexeme.token == .sign "/=" then
    modify fun s =>
      let taken := lexeme.stop - lexeme.start - 1
      let cursor := { s.cursor with
        rest := List.replicate taken '=' ++ s.cursor.rest
        offset := s.cursor.offset - taken }
      let (result, after) := (Scan.regex lexeme.start).run cursor
      let token := match result with
        | .ok token => token
        | .error complaint => .wrong complaint
      { s with
        current := some { lexeme with
          token := token
          stop := after.offset }
        cursor := after }

/-- Takes back the look at the current token, so that it is read anew. -/
def reread : P Unit := do
  let lexeme ← lexeme
  modify fun s =>
    let width := s.cursor.offset - lexeme.start
    match lexeme.token with
    | .sign text => { s with
        current := none
        cursor := { s.cursor with
          rest := (text.toList.take width) ++ s.cursor.rest
          offset := lexeme.start } }
    | _ => s

end P

/-- What a pattern is for: to bind names or to assign, as a whole or inside of another pattern. -/
inductive PatternRole where
  | binding
  | bindingElement
  | assignment
  | assignmentElement
  deriving DecidableEq

/-- The role of the parts of a pattern. -/
def PatternRole.element : PatternRole → PatternRole
  | .binding | .bindingElement => .bindingElement
  | .assignment | .assignmentElement => .assignmentElement

/-- What the grammar can be asked to read at a place. -/
inductive Goal where
  | assignment
  | unary
  | leftHandSide
  | member
  | operators (left : Node) (floor : Nat)
  | subscripts (object : Node) (forbidsCall forbidsIndex : Bool)
  | asPattern (role : PatternRole) (expression : Node)
  | bindingTarget
  | type
  | plainType
  | typeOperator
  | statement (allowsDeclaration : Bool)
  | moduleItem

/-- What reads each goal. -/
abbrev Reader := Goal → P Node

end ScriptBundle.Script
