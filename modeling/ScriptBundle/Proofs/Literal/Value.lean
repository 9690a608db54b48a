import Mathlib.Tactic.SplitIfs
import ScriptBundle.Script.Spelling

/-! What string literals denote when a script is read: a sequence of code units of sixteen bits. A
character beyond the first plane counts as two of them, and an escape may denote half of such a pair,
which no character does. Escapes in base eight are left out, so what is read is read in strict code as
well. -/
namespace ScriptBundle.Script.Literal

open Spelling (isHexDigit)

/-- The code units of a code point. -/
def unitsOfCode (code : Nat) : List UInt16 :=
  if code < 0x10000 then [UInt16.ofNat code]
  else [UInt16.ofNat ((code - 0x10000) / 0x400 + 0xD800),
    UInt16.ofNat ((code - 0x10000) % 0x400 + 0xDC00)]

/-- The code units of a text. -/
def units (text : List Char) : List UInt16 := text.flatMap fun c => unitsOfCode c.toNat

@[simp] theorem units_nil : units [] = [] := rfl

@[simp] theorem units_cons (c : Char) (rest : List Char) :
    units (c :: rest) = unitsOfCode c.toNat ++ units rest := rfl

theorem toNat_bound (c : Char) : c.toNat < 0x110000 := by
  obtain low | high : c.toNat.isValidChar := c.valid
  · omega
  · exact high.2

/-- A character of the first plane is not half of a surrogate pair. -/
theorem toNat_half (c : Char) : ¬(0xD800 ≤ c.toNat ∧ c.toNat < 0xE000) := by
  obtain low | high : c.toNat.isValidChar := c.valid
  · omega
  · omega

/-- The first character of a text and the rest of it can be told from its code units. -/
theorem unitsOfCode_append_inj {a b : Char} {us vs : List UInt16}
    (same : unitsOfCode a.toNat ++ us = unitsOfCode b.toNat ++ vs) : a = b ∧ us = vs := by
  have boundA := toNat_bound a
  have boundB := toNat_bound b
  have halfA := toNat_half a
  have halfB := toNat_half b
  have inj {m n : Nat} (boundM : m < 0x10000) (boundN : n < 0x10000)
      (equal : UInt16.ofNat m = UInt16.ofNat n) : m = n := by
    have := congrArg UInt16.toNat equal
    rwa [UInt16.toNat_ofNat_of_lt' boundM, UInt16.toNat_ofNat_of_lt' boundN] at this
  unfold unitsOfCode at same
  split_ifs at same with smallA smallB smallB <;>
    simp only [List.cons_append, List.nil_append, List.cons.injEq] at same
  · exact ⟨Char.toNat_inj.mp (inj smallA smallB same.1), same.2⟩
  · have := inj smallA (by omega) same.1
    omega
  · have := inj (by omega) smallB same.1
    omega
  · have high := inj (by omega) (by omega) same.1
    have low := inj (by omega) (by omega) same.2.1
    exact ⟨Char.toNat_inj.mp (by omega), same.2.2⟩

theorem unitsOfCode_ne_nil (n : Nat) : unitsOfCode n ≠ [] := by
  unfold unitsOfCode
  split <;> simp

theorem units_injective {a b : List Char} (same : units a = units b) : a = b := by
  induction a generalizing b with
  | nil =>
    cases b with
    | nil => rfl
    | cons => exact absurd same.symm (by simp [unitsOfCode_ne_nil])
  | cons c a ih =>
    cases b with
    | nil => exact absurd same (by simp [unitsOfCode_ne_nil])
    | cons d b =>
      obtain ⟨rfl, rest⟩ := unitsOfCode_append_inj same
      rw [ih rest]

/-- Whether a character ends a line, so that a backslash before it denotes nothing. -/
def endsLine (c : Char) : Bool := c == '\n' || c == '\r' || c == '\u2028' || c == '\u2029'

/-- What an escape with a number of two or four digits denotes. -/
def fixedEscape? (digits rest : List Char) : Option (List UInt16 × List Char) :=
  if digits.all isHexDigit then some (unitsOfCode (Numeral.ofDigits 16 digits), rest) else none

/-- What an escape with a number in braces denotes, from the first digit on. -/
def bracedEscape? (text : List Char) : Option (List UInt16 × List Char) :=
  let digits := text.takeWhile isHexDigit
  match text.dropWhile isHexDigit with
  | '\x7d' :: rest =>
    if digits ≠ [] ∧ Numeral.ofDigits 16 digits ≤ 0x10FFFF then
      some (unitsOfCode (Numeral.ofDigits 16 digits), rest)
    else none
  | _ => none

/-- What an escape denotes, from the character behind the backslash on, and what follows it. -/
def escape? : List Char → Option (List UInt16 × List Char)
  | 'b' :: rest => some (units ['\x08'], rest)
  | 'f' :: rest => some (units ['\x0c'], rest)
  | 'n' :: rest => some (units ['\n'], rest)
  | 'r' :: rest => some (units ['\r'], rest)
  | 't' :: rest => some (units ['\t'], rest)
  | 'v' :: rest => some (units ['\x0b'], rest)
  | '0' :: rest => if rest.head?.any Char.isDigit then none else some (units ['\x00'], rest)
  | 'x' :: a :: b :: rest => fixedEscape? [a, b] rest
  | 'u' :: '\x7b' :: rest => bracedEscape? rest
  | 'u' :: a :: b :: c :: d :: rest => fixedEscape? [a, b, c, d] rest
  | '\r' :: '\n' :: rest => some ([], rest)
  | c :: rest =>
    if endsLine c then some ([], rest)
    else if c.isDigit || c == 'x' || c == 'u' then none
    else some (units [c], rest)
  | [] => none

theorem bracedEscape?_length {text rest : List Char} {us : List UInt16}
    (read : bracedEscape? text = some (us, rest)) : rest.length < text.length := by
  have shorter := (List.dropWhile_suffix isHexDigit (l := text)).length_le
  unfold bracedEscape? at read
  dsimp only at read
  split at read
  next rest' behind =>
    split_ifs at read
    cases read
    rw [behind] at shorter
    exact shorter
  next => cases read

theorem escape?_length {text rest : List Char} {us : List UInt16}
    (read : escape? text = some (us, rest)) : rest.length < text.length := by
  unfold escape? at read
  split at read
  case h_9 =>
    have shorter := bracedEscape?_length read
    simp only [List.length_cons]
    omega
  case h_8 | h_10 =>
    unfold fixedEscape? at read
    split_ifs at read
    cases read
    simp only [List.length_cons]
    omega
  all_goals
    (try split_ifs at read) <;> cases read
    all_goals
      simp only [List.length_cons]
      omega

/-- What the characters behind the opening quote of a literal denote, if the literal ends with the
text. The line and paragraph separators may stand in it as they are. -/
def body? (quote : Char) (text : List Char) : Option (List UInt16) :=
  match text with
  | [] => none
  | '\\' :: rest =>
    match _read : escape? rest with
    | some (us, rest') => (body? quote rest').map (us ++ ·)
    | none => none
  | c :: rest =>
    if c = quote then if rest.isEmpty then some [] else none
    else if c = '\n' ∨ c = '\r' then none
    else (body? quote rest).map (unitsOfCode c.toNat ++ ·)
termination_by text.length
decreasing_by
  · have shorter := escape?_length ‹_›
    simp only [List.length_cons]
    omega
  · simp

/-- What a text denotes as a string literal, if it is one. -/
def value? (literal : String) : Option (List UInt16) :=
  match literal.toList with
  | '"' :: rest => body? '"' rest
  | '\x27' :: rest => body? '\x27' rest
  | _ => none

theorem body?_escape {quote : Char} {text rest : List Char} {us : List UInt16}
    (read : escape? text = some (us, rest)) :
    body? quote ('\\' :: text) = (body? quote rest).map (us ++ ·) := by
  rw [body?]
  split
  next us' rest' read' =>
    cases read.symm.trans read'
    rfl
  next none =>
    rw [read] at none
    cases none

theorem body?_escape_none {quote : Char} {text : List Char} (read : escape? text = none) :
    body? quote ('\\' :: text) = none := by
  rw [body?]
  split
  next read' =>
    rw [read] at read'
    cases read'
  next => rfl

/-- A character that is written as it is denotes itself. -/
theorem body?_plain {quote c : Char} {rest : List Char} (escape : c ≠ '\\') (closing : c ≠ quote)
    (newline : c ≠ '\n') (carriage : c ≠ '\r') :
    body? quote (c :: rest) = (body? quote rest).map (unitsOfCode c.toNat ++ ·) := by
  rw [body?, if_neg closing, if_neg (by simp [newline, carriage])]
  exact escape

theorem body?_closing {quote : Char} (escape : quote ≠ '\\') : body? quote [quote] = some [] := by
  rw [body?, if_pos rfl]
  · rfl
  · exact escape

/-- A character that a backslash changes nothing about, such as a quote or the backslash itself. -/
theorem escape?_self {c : Char} (plain : c ∈ ['"', '\x27', '\\']) (rest : List Char) :
    escape? (c :: rest) = some (unitsOfCode c.toNat, rest) := by
  simp only [List.mem_cons, List.not_mem_nil, or_false] at plain
  obtain rfl | rfl | rfl := plain <;> rfl

example : value? "'a\\u\x7b1F600\x7d\\x41\\\n'" = some [0x61, 0xD83D, 0xDE00, 0x41] := by cbv

end ScriptBundle.Script.Literal
