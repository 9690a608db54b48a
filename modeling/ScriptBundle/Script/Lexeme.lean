import ScriptBundle.Script.Token
import ScriptBundle.Text.IdentifierRanges

/-! Reading the tokens of a script. A cursor holds what is still to be read, how many characters
were read before it, and what was wrong with them but did not stop the reading. -/
namespace ScriptBundle.Script

/-- A token with its place, and whether a line ended between it and the token before. -/
structure Lexeme where
  token : Token
  start : Nat
  stop : Nat
  isAfterLine : Bool
  deriving Inhabited

structure Cursor where
  rest : List Char
  offset : Nat
  complaints : List Complaint
  deriving Inhabited

abbrev Scan := ExceptT Complaint (StateM Cursor)

namespace Scan

def peek : Scan (Option Char) := do return (← get).rest.head?

def advance (n : Nat) : Scan Unit :=
  modify fun c => { c with rest := c.rest.drop n, offset := c.offset + n }

def offset : Scan Nat := do return (← get).offset

def isNext (text : String) : Scan Bool := do return text.toList.isPrefixOf (← get).rest

/-- Takes the given text if it comes next. -/
def take? (text : String) : Scan Bool := do
  if ← isNext text then
    advance text.length
    return true
  else return false

def takeWhile (p : Char → Bool) : Scan (List Char) := do
  let taken := (← get).rest.takeWhile p
  advance taken.length
  return taken

def note (cause : Cause) (at_ : Nat) : Scan Unit :=
  modify fun c => { c with complaints := ⟨cause, at_⟩ :: c.complaints }

def fail {α : Type} (cause : Cause) (at_ : Nat) : Scan α := throw ⟨cause, at_⟩

end Scan

def isLineEnd (c : Char) : Bool := c == '\n' || c == '\r' || c == '\u2028' || c == '\u2029'

/-- Characters that separate tokens and end no line. -/
def isBlank (c : Char) : Bool :=
  c == ' ' || c == '\t' || c == '\x0b' || c == '\x0c' || c == '\u00a0' || c == '\ufeff' ||
    c == '\u1680' || ('\u2000' ≤ c && c ≤ '\u200a') || c == '\u202f' || c == '\u205f' ||
    c == '\u3000'

/-- Where the text between two tokens stands. -/
inductive Gap where
  | blank
  | line
  | block (start : Nat)

/-- Skips blanks, line ends and comments; tells whether a line ended. -/
def skipGap : Gap → List Char → Nat → Bool → List Complaint → Cursor × Bool
  | gap, [], n, ended, complaints =>
    match gap with
    | .block start => (⟨[], n, ⟨.unterminatedComment, start⟩ :: complaints⟩, ended)
    | _ => (⟨[], n, complaints⟩, ended)
  | .blank, '/' :: '/' :: rest, n, ended, complaints => skipGap .line rest (n + 2) ended complaints
  | .blank, '/' :: '*' :: rest, n, ended, complaints =>
    skipGap (.block n) rest (n + 2) ended complaints
  | .blank, '<' :: '!' :: '-' :: '-' :: rest, n, ended, complaints =>
    skipGap .line rest (n + 4) ended (⟨.legacyComment, n⟩ :: complaints)
  | .blank, '-' :: '-' :: '>' :: rest, n, ended, complaints =>
    if ended then skipGap .line rest (n + 3) ended (⟨.legacyComment, n⟩ :: complaints)
    else (⟨'-' :: '-' :: '>' :: rest, n, complaints⟩, ended)
  | .blank, c :: rest, n, ended, complaints =>
    if isLineEnd c then skipGap .blank rest (n + 1) true complaints
    else if isBlank c then skipGap .blank rest (n + 1) ended complaints
    else (⟨c :: rest, n, complaints⟩, ended)
  | .line, c :: rest, n, ended, complaints =>
    if isLineEnd c then skipGap .blank rest (n + 1) true complaints
    else skipGap .line rest (n + 1) ended complaints
  | .block _, '*' :: '/' :: rest, n, ended, complaints =>
    skipGap .blank rest (n + 2) ended complaints
  | .block start, c :: rest, n, ended, complaints =>
    skipGap (.block start) rest (n + 1) (ended || isLineEnd c) complaints

namespace Scan

def isDigitOf (base : Nat) (c : Char) : Bool :=
  if base = 16 then c.isDigit || ('a' ≤ c && c ≤ 'f') || ('A' ≤ c && c ≤ 'F')
  else '0' ≤ c && c.toNat < '0'.toNat + base

/-- The character with a code point, if there is one. -/
def charOf (n : Nat) : Option Char := if n.isValidChar then some (Char.ofNat n) else none

/-- Digits of a code point up to a closing brace or a fixed number of them, after `\u`. A code point
that no character has stays as it is written. -/
def codePoint (start : Nat) : Scan (List Char) := do
  if ← take? "\x7b" then
    let digits ← takeWhile (isDigitOf 16)
    let closed ← take? "\x7d"
    if digits.isEmpty || !closed || digits.length > 8 || Numeral.ofDigits 16 digits > 0x10ffff then
      fail (.badEscape "1-6 hex characters") start
    match charOf (Numeral.ofDigits 16 digits) with
    | some c => return [c]
    | none => return ['\\', 'u', '\x7b'] ++ digits ++ ['\x7d']
  else
    let digits := (← get).rest.take 4
    if digits.length < 4 || !digits.all (isDigitOf 16) then
      fail (.badEscape "4 hex characters") start
    advance 4
    match charOf (Numeral.ofDigits 16 digits) with
    | some c => return [c]
    | none => return ['\\', 'u'] ++ digits

/-- What an escape sequence stands for, from the backslash on. -/
def escape (inTemplate : Bool) : Scan (List Char) := do
  let start ← offset
  advance 1
  let some c ← peek | fail .invalidStringEscape start
  advance 1
  match c with
  | 'n' => return ['\n']
  | 'r' => return ['\r']
  | 't' => return ['\t']
  | 'b' => return ['\x08']
  | 'v' => return ['\x0b']
  | 'f' => return ['\x0c']
  | '\r' =>
    let _ ← take? "\n"
    return []
  | '\n' | '\u2028' | '\u2029' => return []
  | 'x' =>
    let digits := (← get).rest.take 2
    if digits.length < 2 || !digits.all (isDigitOf 16) then
      fail (.badEscape "2 hex characters") start
    advance 2
    return [Char.ofNat (Numeral.ofDigits 16 digits)]
  | 'u' => codePoint start
  | c =>
    if !isDigitOf 8 c then return [c]
    else
      let next ← peek
      if c = '0' && !(next.any (isDigitOf 8)) then return ['\x00']
      else if inTemplate then fail .legacyOctalEscape start
      else
        note .legacyOctalEscape start
        let more := ((← get).rest.take (if c ≤ '3' then 2 else 1)).takeWhile (isDigitOf 8)
        advance more.length
        return [Char.ofNat (Numeral.ofDigits 8 (c :: more))]

/-- The rest of a string up to its closing quote, last character first. -/
def stringBody (start : Nat) (quote : Char) : Nat → List Char → Scan (List Char)
  | 0, value => return value
  | fuel + 1, value => do
    match ← peek with
    | none =>
      note .unterminatedString start
      return value
    | some c =>
      if c = quote then
        advance 1
        return value
      else if c = '\\' then stringBody start quote fuel ((← escape false).reverse ++ value)
      else if c = '\n' || c = '\r' then
        note .unterminatedString start
        return value
      else
        advance 1
        stringBody start quote fuel (c :: value)

def string (quote : Char) : Scan Token := do
  let before ← get
  advance 1
  let value ← stringBody before.offset quote (before.rest.length + 1) []
  let after ← get
  return .string (String.ofList value.reverse)
    (String.ofList (before.rest.take (after.offset - before.offset)))

/-- Whether a separator may stand between two characters of a numeral. -/
def isSeparatorPlace (base : Nat) (before after : Option Char) : Bool :=
  before.isSome && after.any (isDigitOf base)

/-- The digits of a numeral in a base, with separators. -/
def digitRun (base start : Nat) : Nat → Option Char → List Char → Scan (List Char)
  | 0, _, digits => return digits.reverse
  | fuel + 1, before, digits => do
    match (← get).rest with
    | '_' :: rest =>
      if !isSeparatorPlace base before rest.head? then note .separatorPlace start
      advance 1
      digitRun base start fuel (some '_') digits
    | c :: _ =>
      if isDigitOf base c then
        advance 1
        digitRun base start fuel (some c) (c :: digits)
      else return digits.reverse
    | [] => return digits.reverse

def digits (base : Nat) : Scan (List Char) := do
  let cursor ← get
  digitRun base cursor.offset (cursor.rest.length + 1) none []

/-- Digits of which there must be at least one. -/
def someDigits (base : Nat) : Scan (List Char) := do
  let start ← offset
  let found ← digits base
  if found.isEmpty then fail (.expectedDigit base) start
  return found

/-- No name may follow a numeral at once. -/
def endNumber : Scan Unit := do
  if let some c ← peek then
    if Text.isIdentifierStart c then fail .identifierAfterNumber (← offset)

def exponent : Scan Unit := do
  match ← peek with
  | some 'e' | some 'E' =>
    advance 1
    match ← peek with
    | none => fail .exponentMissing (← offset)
    | some '+' | some '-' =>
      advance 1
      let _ ← someDigits 10
    | some _ => let _ ← someDigits 10
  | _ => pure ()

/-- Notes what is wrong with a decimal numeral that begins with zero. -/
def leadingZero (start : Nat) (whole : List Char) : Scan Unit := do
  if whole.length > 1 && whole.head? == some '0' then
    if whole.all (isDigitOf 8) then
      endNumber
      fail .legacyOctalNumber start
    else note .legacyDecimal start

/-- A numeral; the result tells whether it denotes an integer of any size. -/
def numeral : Scan Bool := do
  let start ← offset
  let radix : Option Nat := match (← get).rest with
    | '0' :: c :: _ =>
      if c = 'x' || c = 'X' then some 16
      else if c = 'o' || c = 'O' then some 8
      else if c = 'b' || c = 'B' then some 2
      else none
    | _ => none
  match radix with
  | some base =>
    advance 2
    let _ ← someDigits base
    if ← take? "n" then return true
    endNumber
    return false
  | none =>
    if !(← isNext ".") then
      let whole ← someDigits 10
      if ← take? "n" then return true
      leadingZero start whole
    if ← take? "." then
      let _ ← digits 10
    exponent
    endNumber
    return false

def number : Scan Token := do
  let before ← get
  let isBig ← numeral
  let text := String.ofList (before.rest.take ((← offset) - before.offset))
  return if isBig then .bigint text else .number text

/-- The rest of a name, last character first; the result tells whether an escape stood in it. -/
def nameBody : Nat → Bool → List Char → Scan (List Char × Bool)
  | 0, escaped, name => return (name, escaped)
  | fuel + 1, escaped, name => do
    match ← peek with
    | some '\\' =>
      let start ← offset
      advance 1
      if !(← take? "u") then fail .expectedUnicodeEscape start
      match ← codePoint start with
      | [c] =>
        if !(if name.isEmpty then Text.isIdentifierStart c else Text.isIdentifierPart c) then
          note .invalidIdentifierCharacter start
        nameBody fuel true (c :: name)
      | _ => fail .invalidUnicodeEscape start
    | some c =>
      if Text.isIdentifierPart c then
        advance 1
        nameBody fuel escaped (c :: name)
      else return (name, escaped)
    | none => return (name, escaped)

def name : Scan Token := do
  let cursor ← get
  let (name, escaped) ← nameBody (cursor.rest.length + 1) false []
  let text := String.ofList name.reverse
  if escaped && isReserved text then fail (.escapedReservedWord text) cursor.offset
  return .word text

/-- Signs, each before those that begin it. -/
def signs : List String :=
  [">>>=", "...", "===", "!==", "**=", "<<=", ">>=", ">>>", "&&=", "||=", "??=", "=>", "==", "!=",
    "<=", ">=", "&&", "||", "??", "++", "--", "+=", "-=", "*=", "/=", "%=", "&=", "|=", "^=", "<<",
    ">>", "**", "\x7b", "\x7d", "(", ")", "[", "]", ";", ",", "<", ">", "+", "-", "*", "/", "%",
    "&", "|", "^", "!", "~", "?", ":", "=", "@", "#", ".", "`"]

/-- The token at the cursor. Where types stand, angle brackets are signs of their own. -/
def token (inType : Bool) : Scan Token := do
  match (← get).rest with
  | [] => return .finish
  | '\x00' :: _ => return .finish
  | '"' :: _ => string '"'
  | '\x27' :: _ => string '\x27'
  | '.' :: c :: _ => if c.isDigit then number else sign
  | c :: rest =>
    if c.isDigit then number
    else if c = '\\' || Text.isIdentifierStart c then name
    else if inType && (c = '<' || c = '>') then
      advance 1
      return .sign (String.singleton c)
    else if c = '?' && rest.head? == some '.' && !((rest.drop 1).head?.any Char.isDigit) then
      advance 2
      return .sign "?."
    else sign
where
  sign : Scan Token := do
    let cursor ← get
    match signs.find? (·.toList.isPrefixOf cursor.rest) with
    | some text =>
      advance text.length
      return .sign text
    | none => fail (.unexpectedCharacter (cursor.rest.head?.getD ' ')) cursor.offset

end Scan

namespace Lexeme

/-- The next token. What cannot be read as a token becomes one that holds the complaint. -/
def next (inType : Bool) (cursor : Cursor) (isFirst : Bool) : Lexeme × Cursor :=
  let (cursor, ended) := skipGap .blank cursor.rest cursor.offset isFirst cursor.complaints
  match Scan.token inType |>.run cursor with
  | (.ok token, after) => (⟨token, cursor.offset, after.offset, ended⟩, after)
  | (.error complaint, after) =>
    let rest := if after.offset = cursor.offset then { after with
      rest := after.rest.drop 1, offset := after.offset + 1 } else after
    (⟨.wrong complaint, cursor.offset, rest.offset, ended⟩, rest)

end Lexeme

/-- What ends a piece of a template: its closing quote, or an expression. -/
inductive ChunkEnd where
  | quote
  | hole
  deriving DecidableEq

namespace Scan

/-- A piece of a template. Its value is missing when an escape in it has none. -/
def chunkBody (start : Nat) : Nat → List Char → Option Complaint →
    Scan (List Char × Option Complaint × ChunkEnd)
  | 0, _, _ => fail .unterminatedTemplate start
  | fuel + 1, value, fault => do
    match (← get).rest with
    | [] => fail .unterminatedTemplate start
    | '`' :: _ =>
      advance 1
      return (value, fault, .quote)
    | '$' :: '\x7b' :: _ =>
      advance 2
      return (value, fault, .hole)
    | '\\' :: _ =>
      let before ← get
      match (escape true).run before with
      | (.ok more, after) =>
        set after
        chunkBody start fuel (more.reverse ++ value) fault
      | (.error complaint, after) =>
        set after
        chunkBody start fuel value (fault <|> some complaint)
    | '\r' :: '\n' :: _ =>
      advance 2
      chunkBody start fuel ('\n' :: value) fault
    | '\r' :: _ =>
      advance 1
      chunkBody start fuel ('\n' :: value) fault
    | c :: _ =>
      advance 1
      chunkBody start fuel (c :: value) fault

/-- A piece of a template as it is written, its value, and what ends it. -/
def chunk (start : Nat) : Scan (String × Except Complaint String × ChunkEnd) := do
  let before ← get
  let (value, fault, ending) ← chunkBody start (before.rest.length + 1) [] none
  let width := (← offset) - before.offset - (if ending = .quote then 1 else 2)
  let cooked := match fault with
    | some complaint => .error complaint
    | none => .ok (String.ofList value.reverse)
  return (String.ofList (before.rest.take width), cooked, ending)

/-- The rest of a regular expression up to the slash that ends it. -/
def regexBody (start : Nat) : List Char → Nat → Bool → Bool → Except Complaint Nat
  | [], _, _, _ => .error ⟨.unterminatedRegex, start⟩
  | c :: rest, n, escaped, inClass =>
    if isLineEnd c then .error ⟨.unterminatedRegex, start⟩
    else if escaped then regexBody start rest (n + 1) false inClass
    else if c = '\\' then regexBody start rest (n + 1) true inClass
    else if c = '[' then regexBody start rest (n + 1) false true
    else if c = ']' then regexBody start rest (n + 1) false false
    else if c = '/' && !inClass then .ok n
    else regexBody start rest (n + 1) false inClass

/-- A regular expression after its first slash: pattern and flags. One that does not end is left at
the end of its line. -/
def regex (start : Nat) : Scan Token := do
  let before ← get
  let width ← match regexBody start before.rest 0 false false with
    | .ok n => pure n
    | .error complaint =>
      let _ ← takeWhile (!isLineEnd ·)
      throw complaint
  advance (width + 1)
  let flags ← takeWhile Text.isIdentifierPart
  return .regex (String.ofList (before.rest.take width)) (String.ofList flags)

end Scan

end ScriptBundle.Script
