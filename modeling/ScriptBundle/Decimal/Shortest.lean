/-! The shortest decimal that denotes a binary number. A double is a mantissa times a power of two;
the decimals that are read back as it form an interval around it. Of the decimals in the interval
with the fewest digits the nearest one is taken. -/
namespace ScriptBundle.Decimal

/-- A positive number as `mantissa * 2 ^ exponent`. The gap below it is half as wide as the gap
above it when the mantissa is the least one for its exponent. -/
structure Binary where
  mantissa : Nat
  exponent : Int
  isNarrow : Bool
  deriving DecidableEq, Inhabited, Repr

/-- A positive number as `digits * 10 ^ exponent`. -/
structure Scientific where
  digits : Nat
  exponent : Int
  deriving DecidableEq, Inhabited, Repr

/-- The least mantissa of a number that has all its digits. Its bit is not stored. -/
def leadingBit : Nat := 0x10000000000000

/-- The positive number with the given bits, when they stand for one. -/
def Binary.ofBits (bits : Nat) : Option Binary :=
  let fraction : Nat := bits % leadingBit
  let power : Nat := bits / leadingBit % 2048
  if power = 2047 then none
  else if power = 0 then if fraction = 0 then none else some ⟨fraction, -1074, false⟩
  else some ⟨fraction + leadingBit, Int.ofNat power - 1075, fraction == 0 && power != 1⟩

/-- A number times a power of a base, as numerator and denominator. -/
def scaled (value : Nat) (power : Int) (base : Nat) : Nat × Nat :=
  if 0 ≤ power then (value * Nat.pow base power.toNat, 1) else (value, Nat.pow base (-power).toNat)

/-- Whether the decimal lies in the interval of numbers that are read as the binary. -/
def covers (b : Binary) (d : Scientific) : Bool :=
  let (left, leftUnder) := scaled d.digits d.exponent 10
  let bound (x : Nat) : Nat × Nat := scaled x (b.exponent - 2) 2
  let (low, lowUnder) := bound (4 * b.mantissa - if b.isNarrow then 1 else 2)
  let (high, highUnder) := bound (4 * b.mantissa + 2)
  if b.mantissa % 2 = 0 then
    low * leftUnder ≤ left * lowUnder ∧ left * highUnder ≤ high * leftUnder
  else low * leftUnder < left * lowUnder ∧ left * highUnder < high * leftUnder

/-- The whole part of the number divided by a power of ten. -/
def floorDiv (b : Binary) (power : Int) : Nat :=
  let (top, under) := scaled b.mantissa b.exponent 2
  let (step, stepUnder) := scaled 1 power 10
  top * stepUnder / (under * step)

/-- The power of ten of the first digit, at or below a given one. -/
def firstPower (b : Binary) : Nat → Int → Int
  | 0, power => power
  | fuel + 1, power => if floorDiv b power = 0 then firstPower b fuel (power - 1) else power

/-- Whether the second of two neighbours on a grid of decimals is the nearer one. -/
def isUpperNearer (b : Binary) (lower : Nat) (power : Int) : Bool :=
  let (top, under) := scaled (2 * b.mantissa) b.exponent 2
  let (middle, middleUnder) := scaled (2 * lower + 1) power 10
  middle * under < top * middleUnder

/-- The nearest decimal in the interval with the least number of digits, from the given one on. -/
def search (b : Binary) (first : Int) : Nat → Nat → Scientific
  | 0, count =>
    let power := first - count
    ⟨floorDiv b power, power⟩
  | fuel + 1, count =>
    let power := first - count
    let lower := floorDiv b power
    let below := covers b ⟨lower, power⟩
    let above := covers b ⟨lower + 1, power⟩
    if above && (!below || isUpperNearer b lower power) then ⟨lower + 1, power⟩
    else if below then ⟨lower, power⟩
    else search b first fuel (count + 1)

def shortest (b : Binary) : Scientific := search b (firstPower b 700 310) 17 0

/-- A decimal in positional notation. -/
def Scientific.positional (d : Scientific) : List Char :=
  let digits := Nat.toDigits 10 d.digits
  if 0 ≤ d.exponent then digits ++ List.replicate d.exponent.toNat '0'
  else
    let places := (-d.exponent).toNat
    let whole := digits.take (digits.length - places)
    let fraction := List.replicate (places - digits.length) '0' ++ digits.drop (digits.length - places)
    let fraction := (fraction.reverse.dropWhile (· == '0')).reverse
    let whole := if whole.isEmpty then ['0'] else whole
    if fraction.isEmpty then whole else whole ++ '.' :: fraction

end ScriptBundle.Decimal
