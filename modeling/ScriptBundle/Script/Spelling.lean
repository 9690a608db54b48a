import ScriptBundle.Edition
import ScriptBundle.Script.Numeral

/-! How literals are spelt in printed scripts. A readable script keeps the spelling of its source; a
compact one, and everything that the bundler writes itself, gets the spelling laid down here. -/
namespace ScriptBundle.Script

/-- What decides about spelling and layout. -/
structure Style where
  edition : Edition
  isCompact : Bool
  deriving DecidableEq, Inhabited, Repr

namespace Spelling

/-- The digits of a number in base sixteen, at least the given count of them. -/
def hex (count n : Nat) : List Char :=
  let digits := Nat.toDigits 16 n
  List.replicate (count - digits.length) '0' ++ digits

def upperHex (n : Nat) : List Char := (hex 4 n).map Char.toUpper

def isHexDigit (c : Char) : Bool := c.isDigit || ('a' ≤ c && c ≤ 'f') || ('A' ≤ c && c ≤ 'F')

/-- Whether four characters are the digits of one half of a surrogate pair. -/
def isSurrogate (digits : List Char) : Bool :=
  let n := Numeral.ofDigits 16 digits
  digits.length = 4 && digits.all isHexDigit && 0xD800 ≤ n && n ≤ 0xDFFF

/-- Whether what follows a backslash makes it the start of an escaped half of a surrogate pair. A
string has no other way to hold such a half, so the backslash is then not escaped. Of an escape in
braces only the first four digits count. -/
def startsSurrogate : List Char → Bool
  | 'u' :: '\x7b' :: rest => isSurrogate (rest.take 4)
  | 'u' :: rest => isSurrogate (rest.take 4)
  | _ => false

/-- One character between quotes, apart from the quotes themselves. -/
def stringChar (edition : Edition) (c : Char) (next : List Char) : List Char :=
  let isOld : Bool := edition ≤ .es5
  match c with
  | '\x00' =>
    if edition < .es5 || (next.head?.any Char.isDigit) then "\\x00".toList else "\\0".toList
  | '\x08' => "\\b".toList
  | '\x0c' => "\\f".toList
  | '\n' => "\\n".toList
  | '\r' => "\\r".toList
  | '\x0b' => "\\v".toList
  | '\t' => ['\t']
  | '\\' => if startsSurrogate next then ['\\'] else ['\\', '\\']
  | '\u2028' => "\\u2028".toList
  | '\u2029' => "\\u2029".toList
  | '\ufeff' => "\\uFEFF".toList
  | c =>
    let n := c.toNat
    if n < 32 then "\\x".toList ++ hex 2 n
    else if 127 ≤ n ∧ n ≤ 255 ∧ isOld then "\\x".toList ++ hex 2 n
    else if 0x10000 ≤ n ∧ isOld then
      "\\u".toList ++ upperHex ((n - 0x10000) / 0x400 + 0xD800) ++
        "\\u".toList ++ upperHex ((n - 0x10000) % 0x400 + 0xDC00)
    else [c]

/-- The characters between the quotes of a string literal. -/
def stringBody (edition : Edition) (quote : Char) : List Char → List Char
  | [] => []
  | c :: next =>
    (if c = quote then ['\\', c] else stringChar edition c next) ++ stringBody edition quote next

/-- The string literal for a text, in double quotes unless these would have to be escaped more often
than single ones. -/
def string (edition : Edition) (text : String) : String :=
  let characters := text.toList
  let quote := if characters.count '\x27' < characters.count '"' then '\x27' else '"'
  String.ofList (quote :: stringBody edition quote characters ++ [quote])

/-- The shortest way to write a number with digits; the flag asks for a text that a dot may follow,
and the result says whether a dot alone would be read as part of the number. -/
def compactNumber (x : Float) (beforeDot : Bool) : String × Bool :=
  let whole := Numeral.truncated x
  let digits := (Numeral.text x).toList
  if x.isInf then (Numeral.text x, false)
  else if beforeDot && 10000000 ≤ whole && whole ≤ 0xffffff && Float.ofInt whole == x then
    (String.ofList ("0x".toList ++ hex 1 whole.toNat), false)
  else
    let spelt := match digits with
      | '0' :: '.' :: fraction =>
        let zeros := (fraction.takeWhile (· == '0')).length
        if 2 < zeros then
          fraction.drop zeros ++ "e-".toList ++ (toString fraction.length).toList
        else '.' :: fraction
      | digits =>
        let zeros := (digits.reverse.takeWhile (· == '0')).length
        if 3 ≤ zeros && !digits.contains '.' then
          digits.take (digits.length - zeros) ++ 'e' :: (toString zeros).toList
        else digits
    (String.ofList spelt, beforeDot && !spelt.contains '.' && !spelt.contains 'e')

def withoutSeparators (text : String) : String := String.ofList (text.toList.filter (· ≠ '_'))

/-- Whether a numeral is written in base two or eight with a prefix. -/
def isNewRadix (text : String) : Bool :=
  match text.toList with
  | '0' :: c :: _ :: _ => c == 'b' || c == 'B' || c == 'o' || c == 'O'
  | _ => false

/-- A numeral, and whether a dot after it would be read as part of the number. -/
def number (style : Style) (text : String) : String × Bool :=
  let x := Numeral.value text
  if style.isCompact then
    if x.isInf then (text, false) else compactNumber x true
  else if isNewRadix text && style.edition < .es2015 && !x.isInf then
    let shown := Numeral.display x
    (shown, !shown.contains '.' && !shown.contains 'e')
  else
    let plain := withoutSeparators text
    let isWhole := match plain.toList with
      | '0' :: _ :: _ => false
      | digits => digits.all Char.isDigit
    (if style.edition < .es2021 then plain else text, isWhole)

/-- A numeral that no dot follows. -/
def plainNumber (style : Style) (text : String) : String :=
  let x := Numeral.value text
  if style.isCompact && !x.isInf then (compactNumber x false).1 else (number style text).1

/-- A numeral for an integer of any size. -/
def bigint (style : Style) (text : String) : String :=
  if style.isCompact then
    let (base, digits) := Numeral.radix (text.toList.filter fun c => c ≠ '_' && c ≠ 'n')
    let n := Numeral.ofDigits base digits
    String.ofList
      (if 10000000000000000 ≤ n then "0x".toList ++ hex 1 n else (toString n).toList) ++ "n"
  else if style.edition < .es2021 then withoutSeparators text
  else text

/-- Line ends of all kinds as one kind. -/
def evenLines : List Char → List Char
  | '\r' :: '\n' :: rest => '\n' :: evenLines rest
  | '\r' :: rest => '\n' :: evenLines rest
  | c :: rest => c :: evenLines rest
  | [] => []

/-- One character of a template that stands for itself. -/
def templateChar (c : Char) (next : List Char) : List Char :=
  match c with
  | '\x00' =>
    if next.head?.any (fun c => '1' ≤ c && c ≤ '9') then "\\x00".toList else "\\0".toList
  | '\x08' => "\\b".toList
  | '\x0c' => "\\f".toList
  | '\x0b' => "\\v".toList
  | '\u2028' => "\\u2028".toList
  | '\u2029' => "\\u2029".toList
  | '\ufeff' => "\\uFEFF".toList
  | c =>
    if 127 ≤ c.toNat ∧ c.toNat ≤ 255 then "\\x".toList ++ hex 2 c.toNat
    else [c]

/-- The character with a given code from an escape of two digits. -/
def templateCode (n : Nat) (next : List Char) : List Char :=
  if n = 0 then
    if next.head?.any (fun c => '1' ≤ c && c ≤ '9') then "\\x00".toList else "\\0".toList
  else if 32 ≤ n ∧ n ≤ 126 then [Char.ofNat n]
  else "\\x".toList ++ hex 2 n

/-- Whether a backslash before the character is kept. -/
def keepsBackslash (c : Char) (next : List Char) (isAfterDollar : Bool) : Bool :=
  match c with
  | '\\' | 'r' | 'v' | 'b' | 'f' | 'u' | '\r' | '\n' | '\x60' => true
  | '$' => next.head? == some '\x7b'
  | '\x7b' => isAfterDollar
  | c => '0' ≤ c && c ≤ '7'

/-- The text between two substitutions of a template with the escapes that it can do without
resolved. The flag tells whether a dollar sign was written last. -/
def compactChunk (isAfterDollar : Bool) : List Char → List Char
  | '\\' :: 'n' :: rest => '\n' :: compactChunk isAfterDollar rest
  | '\\' :: 't' :: rest => '\t' :: compactChunk isAfterDollar rest
  | '\\' :: 'x' :: a :: b :: rest =>
    templateCode (Numeral.ofDigits 16 [a, b]) rest ++ compactChunk isAfterDollar rest
  | '\\' :: c :: rest =>
    if c = '\u2028' ∨ c = '\u2029' then compactChunk isAfterDollar rest
    else if keepsBackslash c rest isAfterDollar then '\\' :: c :: compactChunk false rest
    else templateChar c rest ++ compactChunk (c == '$') rest
  | c :: rest => templateChar c rest ++ compactChunk (c == '$') rest
  | [] => []

/-- The text between two substitutions of a template. -/
def chunk (style : Style) (raw : String) : String :=
  let characters := evenLines raw.toList
  String.ofList (if style.isCompact then compactChunk false characters else characters)

end Spelling

end ScriptBundle.Script
