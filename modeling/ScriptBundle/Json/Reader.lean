import ScriptBundle.Text.Quoted

/-! Reading the data notation step by step. A reader takes what it wants from the front of the text;
when it fails, the fault keeps what was still unread, from which line and column follow. Values
that nobody asked for are skipped: their nesting is unlimited and their escapes are not decoded. -/
namespace ScriptBundle.Json

/-- Why a text is refused. -/
inductive Cause where
  | endOfList
  | endOfObject
  | endOfString
  | endOfValue
  | expectedColon
  | expectedCommaOrBracket
  | expectedCommaOrBrace
  | expectedWord
  | expectedValue
  | invalidEscape
  | invalidNumber
  | controlCharacter
  | keyNotString
  | loneSurrogate
  | endOfEscape
  | trailingComma
  | trailingCharacters
  | wrongType (found expected : String)
  | wrongLength (length : Nat) (expected : String)
  | duplicateField (name : String)
  deriving DecidableEq, Inhabited, Repr

def Cause.message : Cause → String
  | .endOfList => "EOF while parsing a list"
  | .endOfObject => "EOF while parsing an object"
  | .endOfString => "EOF while parsing a string"
  | .endOfValue => "EOF while parsing a value"
  | .expectedColon => "expected `:`"
  | .expectedCommaOrBracket => "expected `,` or `]`"
  | .expectedCommaOrBrace => "expected `,` or `\x7d`"
  | .expectedWord => "expected ident"
  | .expectedValue => "expected value"
  | .invalidEscape => "invalid escape"
  | .invalidNumber => "invalid number"
  | .controlCharacter => "control character (\\u0000-\\u001F) found while parsing a string"
  | .keyNotString => "key must be a string"
  | .loneSurrogate => "lone leading surrogate in hex escape"
  | .endOfEscape => "unexpected end of hex escape"
  | .trailingComma => "trailing comma"
  | .trailingCharacters => "trailing characters"
  | .wrongType found expected => "invalid type: " ++ found ++ ", expected " ++ expected
  | .wrongLength length expected =>
    "invalid length " ++ toString length ++ ", expected " ++ expected
  | .duplicateField name => "duplicate field `" ++ name ++ "`"

/-- A cause, what was unread when it arose, and whether its place is the next character's. -/
structure Mistake where
  cause : Cause
  rest : List Char
  ahead : Bool
  deriving Inhabited

/-- The line and the count of bytes behind the last line break after reading the given text. -/
def position (text : List Char) : Nat × Nat :=
  text.foldl (fun (line, column) c => if c = '\n' then (line + 1, 0) else (line, column + c.utf8Size))
    (1, 0)

def Mistake.message (f : Mistake) (text : List Char) : String :=
  let read := text.take (text.length - f.rest.length)
  let (line, column) :=
    match f.ahead, f.rest with
    | true, '\n' :: _ => position (read ++ ['\n'])
    | true, _ :: _ => ((position read).1, (position read).2 + 1)
    | _, _ => position read
  f.cause.message ++ " at line " ++ toString line ++ " column " ++ toString column

abbrev Reader := StateT (List Char) (Except Mistake)

namespace Reader

/-- Fails at what was read last. -/
def fail {α : Type} (cause : Cause) : Reader α := do throw ⟨cause, ← get, false⟩

/-- Fails at the next character. -/
def failAhead {α : Type} (cause : Cause) : Reader α := do throw ⟨cause, ← get, true⟩

def isBlank (c : Char) : Bool := c == ' ' || c == '\n' || c == '\t' || c == '\r'

/-- Skips blanks and shows what follows. -/
def peek : Reader (Option Char) := do
  modify (·.dropWhile isBlank)
  return (← get).head?

def skip : Reader Unit := modify List.tail

/-- Takes the next character, blanks included. -/
def next : Reader (Option Char) := do
  let c := (← get).head?
  skip
  return c

/-- Takes the rest of a word whose first letter is known. -/
def word : List Char → Reader Unit
  | [] => pure ()
  | c :: rest => do
    match ← next with
    | none => fail .endOfValue
    | some d => if d = c then word rest else fail .expectedWord

def digits : Reader (List Char) := do
  let taken := (← get).takeWhile Char.isDigit
  modify (·.drop taken.length)
  return taken

/-- Takes a number and returns its text. -/
def number : Reader String := do
  let start ← get
  if start.head? = some '-' then skip
  match ← next with
  | some '0' => if ((← get).head?.any Char.isDigit) then failAhead .invalidNumber
  | some c => if c.isDigit then let _ ← digits else fail .invalidNumber
  | none => fail .invalidNumber
  if (← get).head? = some '.' then
    skip
    if (← digits).isEmpty then failAhead .invalidNumber
  if (← get).head?.any (fun c => c = 'e' || c = 'E') then
    skip
    if (← get).head?.any (fun c => c = '+' || c = '-') then skip
    match ← next with
    | some c => if c.isDigit then let _ ← digits else fail .invalidNumber
    | none => fail .invalidNumber
  return String.ofList (start.take (start.length - (← get).length))

def hexValue? (c : Char) : Option Nat :=
  if c.isDigit then some (c.toNat - '0'.toNat)
  else if 'a' ≤ c ∧ c ≤ 'f' then some (c.toNat - 'a'.toNat + 10)
  else if 'A' ≤ c ∧ c ≤ 'F' then some (c.toNat - 'A'.toNat + 10)
  else none

/-- The number that four hexadecimal digits write. -/
def hex4? (a b c d : Char) : Option Nat := do
  return (((← hexValue? a) * 16 + (← hexValue? b)) * 16 + (← hexValue? c)) * 16 + (← hexValue? d)

/-- The character behind a one-letter escape. -/
def escaped? : Char → Option Char
  | '"' => some '"'
  | '\\' => some '\\'
  | '/' => some '/'
  | 'b' => some '\x08'
  | 'f' => some '\x0c'
  | 'n' => some '\n'
  | 'r' => some '\r'
  | 't' => some '\t'
  | _ => none

/-- The text of a literal behind its opening quote, and what follows the closing one. A text that
is not wanted may hold surrogates without a partner. -/
def stringBody (wanted : Bool) (taken : List Char) : List Char → Except Mistake (String × List Char)
  | [] => .error ⟨.endOfString, [], false⟩
  | '"' :: rest => .ok (String.ofList taken.reverse, rest)
  | '\\' :: 'u' :: a :: b :: c :: d :: rest =>
    match hex4? a b c d with
    | none => .error ⟨.invalidEscape, rest, false⟩
    | some unit =>
      if !wanted then stringBody wanted taken rest
      else if 0xDC00 ≤ unit ∧ unit < 0xE000 then .error ⟨.loneSurrogate, rest, false⟩
      else if 0xD800 ≤ unit ∧ unit < 0xDC00 then
        match rest with
        | '\\' :: 'u' :: a :: b :: c :: d :: rest =>
          match hex4? a b c d with
          | none => .error ⟨.invalidEscape, rest, false⟩
          | some low =>
            if 0xDC00 ≤ low ∧ low < 0xE000 then
              stringBody wanted
                (Char.ofNat (0x10000 + (unit - 0xD800) * 0x400 + (low - 0xDC00)) :: taken) rest
            else .error ⟨.loneSurrogate, rest, false⟩
        | '\\' :: 'u' :: _ => .error ⟨.endOfString, [], false⟩
        | '\\' :: _ :: rest => .error ⟨.endOfEscape, rest, false⟩
        | [] | ['\\'] => .error ⟨.endOfString, [], false⟩
        | _ :: rest => .error ⟨.endOfEscape, rest, false⟩
      else stringBody wanted (Char.ofNat unit :: taken) rest
  | '\\' :: 'u' :: _ => .error ⟨.endOfString, [], false⟩
  | ['\\'] => .error ⟨.endOfString, [], false⟩
  | '\\' :: c :: rest =>
    match escaped? c with
    | some c => stringBody wanted (c :: taken) rest
    | none => .error ⟨.invalidEscape, rest, false⟩
  | c :: rest =>
    if c.toNat < 32 then .error ⟨.controlCharacter, rest, false⟩
    else stringBody wanted (c :: taken) rest
  termination_by rest => rest.length

/-- Takes the rest of a literal behind its opening quote. -/
def string (wanted : Bool) : Reader String := fun rest => stringBody wanted [] rest

/-- Takes a member's name behind its opening quote, and the colon. -/
def key (wanted : Bool) : Reader String := do
  let name ← string wanted
  match ← peek with
  | some ':' => skip
  | some _ => failAhead .expectedColon
  | none => failAhead .endOfObject
  return name

/-- What a list or an object lacks when the text ends. -/
def endOf (object : Bool) : Cause := if object then .endOfObject else .endOfList

/-- Closes lists and objects until one goes on; none is left when the value is complete. -/
def closeFrames : Nat → Bool → List Bool → Reader (List Bool)
  | 0, _, _ => return []
  | _, _, [] => return []
  | fuel + 1, began, object :: outer => do
    match ← peek with
    | none => failAhead (endOf object)
    | some c =>
      if began && c = ',' then skip; return object :: outer
      else if c = (if object then '\x7d' else ']') then skip; closeFrames fuel true outer
      else if began then
        failAhead (if object then .expectedCommaOrBrace else .expectedCommaOrBracket)
      else return object :: outer

/-- Skips a value that stands inside the given lists (`false`) and objects (`true`). -/
def skipValueIn : Nat → List Bool → Reader Unit
  | 0, _ => pure ()
  | fuel + 1, frames => do
    let (began, frames) ← (do
      match ← peek with
      | none => failAhead .endOfValue
      | some '[' => skip; return (false, false :: frames)
      | some '\x7b' => skip; return (false, true :: frames)
      | some 'n' => skip; word ['u', 'l', 'l']; return (true, frames)
      | some 't' => skip; word ['r', 'u', 'e']; return (true, frames)
      | some 'f' => skip; word ['a', 'l', 's', 'e']; return (true, frames)
      | some '"' => skip; let _ ← string false; return (true, frames)
      | some c =>
        if c = '-' || c.isDigit then let _ ← number; return (true, frames)
        else failAhead .expectedValue)
    match ← closeFrames (frames.length + 1) began frames with
    | [] => pure ()
    | object :: outer =>
      if object then
        match ← peek with
        | some '"' => skip; let _ ← key false
        | some _ => failAhead .keyNotString
        | none => failAhead .endOfObject
      skipValueIn fuel (object :: outer)

/-- Skips one value. -/
def skipValue : Reader Unit := do skipValueIn ((← get).length + 1) []

/-- Fails because the next value has another type than the expected one. -/
def failType {α : Type} (expected : String) : Reader α := do
  match ← peek with
  | some 'n' => skip; word ['u', 'l', 'l']; fail (.wrongType "null" expected)
  | some 't' => skip; word ['r', 'u', 'e']; fail (.wrongType "boolean `true`" expected)
  | some 'f' => skip; word ['a', 'l', 's', 'e']; fail (.wrongType "boolean `false`" expected)
  | some '[' => fail (.wrongType "sequence" expected)
  | some '\x7b' => fail (.wrongType "map" expected)
  | some '"' =>
    skip
    let text ← string true
    fail (.wrongType ("string " ++ Text.quoted text) expected)
  | some c =>
    if c = '-' || c.isDigit then
      let text ← number
      let isInteger := text.toList.all fun c => c.isDigit || c = '-'
      fail (.wrongType ((if isInteger then "integer `" else "floating point `") ++ text ++ "`")
        expected)
    else failAhead .expectedValue
  | none => failAhead .endOfValue

end Reader

end ScriptBundle.Json
