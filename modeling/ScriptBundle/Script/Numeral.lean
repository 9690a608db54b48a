import ScriptBundle.Decimal.Shortest

/-! Numerals of the script language: the number that a numeral denotes, the text of a number in
positional notation, and the arithmetic that constant members of enumerations may use. -/
namespace ScriptBundle.Script.Numeral

/-- The value of a digit, in any base up to sixteen. -/
def digitValue (c : Char) : Nat :=
  if c.isDigit then c.toNat - '0'.toNat
  else if 'a' ≤ c ∧ c ≤ 'f' then c.toNat - 'a'.toNat + 10
  else if 'A' ≤ c ∧ c ≤ 'F' then c.toNat - 'A'.toNat + 10
  else 0

/-- The natural number that digits denote in a base. -/
def ofDigits (base : Nat) (digits : List Char) : Nat :=
  digits.foldl (fun n c => n * base + digitValue c) 0

/-- The base that a numeral names, and its digits. -/
def radix (text : List Char) : Nat × List Char :=
  match text with
  | '0' :: 'x' :: rest | '0' :: 'X' :: rest => (16, rest)
  | '0' :: 'o' :: rest | '0' :: 'O' :: rest => (8, rest)
  | '0' :: 'b' :: rest | '0' :: 'B' :: rest => (2, rest)
  | _ => (10, text)

/-- The number that whole digits, digits after the point and an exponent denote. -/
def ofParts (whole fraction : List Char) (exponent : Int) : Float :=
  let mantissa := ofDigits 10 (whole ++ fraction)
  let power := exponent - fraction.length
  if mantissa = 0 then 0
  else if power > 400 then 1.0 / 0.0
  else if power < -2000 then 0
  else Float.ofScientific mantissa (power < 0) power.natAbs

/-- The number that a numeral denotes. Separators between digits do not count. -/
def value (text : String) : Float :=
  let text := text.toList.filter (· ≠ '_')
  match text with
  | '-' :: rest => -plain rest
  | _ => plain text
where
  plain (text : List Char) : Float :=
    match radix text with
    | (10, text) =>
      let whole := text.takeWhile Char.isDigit
      let rest := text.dropWhile Char.isDigit
      let (fraction, rest) := match rest with
        | '.' :: rest => (rest.takeWhile Char.isDigit, rest.dropWhile Char.isDigit)
        | _ => ([], rest)
      match rest with
      | 'e' :: rest | 'E' :: rest =>
        match rest with
        | '-' :: digits => ofParts whole fraction (-(ofDigits 10 digits))
        | '+' :: digits => ofParts whole fraction (ofDigits 10 digits)
        | digits => ofParts whole fraction (ofDigits 10 digits)
      | _ =>
        if text = "Infinity".toList then 1.0 / 0.0
        else if text = "NaN".toList then 0.0 / 0.0
        else ofParts whole fraction 0
    | (base, digits) => Float.ofNat (ofDigits base digits)

/-- The bit that is set in negative numbers, above those of the size. -/
def signBit : Nat := 0x8000000000000000

/-- The number of words of 32 bits. -/
def wordCount : Nat := 0x100000000

/-- The first word that stands for a negative number. -/
def firstNegative : Nat := 0x80000000

/-- A number in positional notation, with the fewest digits that denote it. -/
def text (x : Float) : String :=
  if x.isNaN then "NaN"
  else
    let bits := x.toBits.toNat
    let body :=
      if x.isInf then "Infinity".toList
      else match Decimal.Binary.ofBits (bits % signBit) with
        | none => ['0']
        | some b => (Decimal.shortest b).positional
    String.ofList (if bits / signBit = 1 then '-' :: body else body)

/-- A decimal as scripts show it: positional from a millionth up to twenty-one digits before the
point, else with one digit before the point and an exponent. -/
def shown (d : Decimal.Scientific) : List Char :=
  let digits := Nat.toDigits 10 d.digits
  let point : Int := digits.length + d.exponent
  if -6 < point ∧ point ≤ 21 then d.positional
  else
    let significant := (digits.reverse.dropWhile (· == '0')).reverse
    let fraction := significant.drop 1
    let mantissa := significant.take 1 ++ (if fraction.isEmpty then [] else '.' :: fraction)
    let power := point - 1
    mantissa ++ 'e' :: (if power < 0 then '-' else '+') :: Nat.toDigits 10 power.natAbs

/-- A number as scripts show it. -/
def display (x : Float) : String :=
  let bits := x.toBits.toNat
  match Decimal.Binary.ofBits (bits % signBit) with
  | none => if x.isFinite then "0" else text x
  | some b =>
    let body := shown (Decimal.shortest b)
    String.ofList (if bits / signBit = 1 then '-' :: body else body)

/-- The integer between a number and zero that is nearest to the number. -/
def truncated (x : Float) : Int :=
  let bits := x.toBits.toNat
  match Decimal.Binary.ofBits (bits % signBit) with
  | none => 0
  | some b =>
    let size : Int := (Decimal.floorDiv b 0 : Nat)
    if bits / signBit = 1 then -size else size

/-- The 32 bits of an integer that operators on bits work on. -/
def word (x : Float) : Nat := (truncated x % wordCount).toNat

def ofWord (w : Nat) : Float :=
  let w := w % wordCount
  if w < firstNegative then Float.ofNat w else -Float.ofNat (wordCount - w)

/-- The remainder of a division, with the sign of the number divided. -/
def remainder (x y : Float) : Float :=
  if x.isNaN || y.isNaN || x.isInf || y == 0 then 0.0 / 0.0
  else if y.isInf then x
  else
    let sign : Float := if x.toBits.toNat / signBit = 1 then -1 else 1
    match Decimal.Binary.ofBits (x.toBits.toNat % signBit),
        Decimal.Binary.ofBits (y.toBits.toNat % signBit) with
    | some a, some b =>
      let low := min a.exponent b.exponent
      let left := a.mantissa * Nat.pow 2 (a.exponent - low).toNat
      let right := b.mantissa * Nat.pow 2 (b.exponent - low).toNat
      sign * Float.scaleB (Float.ofNat (left % right)) low
    | _, _ => x

/-- A unary operator on a number. -/
def unary? (operator : String) (x : Float) : Option Float :=
  match operator with
  | "+" => some x
  | "-" => some (-x)
  | "~" => some (ofWord (wordCount - 1 - word x))
  | _ => none

/-- A binary operator on two numbers. -/
def binary? (operator : String) (x y : Float) : Option Float :=
  match operator with
  | "+" => some (x + y)
  | "-" => some (x - y)
  | "*" => some (x * y)
  | "/" => some (x / y)
  | "%" => some (remainder x y)
  | "**" => some (if y.isNaN || ((x == 1 || x == -1) && y.isInf) then 0.0 / 0.0 else Float.pow x y)
  | "<<" => some (ofWord (word x <<< (word y % 32)))
  | ">>" =>
    let w := word x
    let shift := word y % 32
    let value : Int := if w < firstNegative then w else w - wordCount
    some (ofWord (value >>> shift % wordCount).toNat)
  | ">>>" => some (Float.ofNat (word x >>> (word y % 32)))
  | "&" => some (ofWord (word x &&& word y))
  | "|" => some (ofWord (word x ||| word y))
  | "^" => some (ofWord (word x ^^^ word y))
  | _ => none

end ScriptBundle.Script.Numeral
