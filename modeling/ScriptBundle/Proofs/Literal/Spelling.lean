import ScriptBundle.Json.Quoted
import ScriptBundle.Proofs.Literal.Value

/-! Two spellings of a text as a literal: that of the data notation and that of printed scripts. The
first always denotes the text. The second does unless the text holds a backslash before the digits of
half a surrogate pair: the backslash is written alone then, so that an escape is read. -/
namespace ScriptBundle.Script.Literal

open Nat (digitChar)
open Spelling (hex upperHex isHexDigit isSurrogate startsSurrogate stringChar stringBody)

theorem isHexDigit_digitChar :
    ∀ d < 16, isHexDigit (digitChar d) ∧ isHexDigit (digitChar d).toUpper := by decide

theorem digitValue_digitChar : ∀ d < 16,
    Numeral.digitValue (digitChar d) = d ∧ Numeral.digitValue (digitChar d).toUpper = d := by decide

theorem hex_two {n : Nat} (bound : n < 0x100) :
    hex 2 n = [digitChar (n / 16), digitChar (n % 16)] := by
  unfold hex
  by_cases small : n < 16
  · rw [Nat.toDigits_of_lt_base small, Nat.div_eq_of_lt small, Nat.mod_eq_of_lt small]
    rfl
  · rw [Nat.toDigits_of_base_le (by decide) (by omega), Nat.toDigits_of_lt_base (by omega)]
    rfl

theorem hex_four {n : Nat} (large : 0x1000 ≤ n) (bound : n < 0x10000) :
    hex 4 n = [digitChar (n / 0x1000), digitChar (n / 0x100 % 16), digitChar (n / 16 % 16),
      digitChar (n % 16)] := by
  unfold hex
  rw [Nat.toDigits_of_base_le (by decide) (by omega),
    Nat.toDigits_of_base_le (by decide) (by omega),
    Nat.toDigits_of_base_le (by decide) (by omega), Nat.toDigits_of_lt_base (by omega)]
  simp [Nat.div_div_eq_div_mul]

theorem escape?_hex {n : Nat} (bound : n < 0x100) (rest : List Char) :
    escape? ('x' :: (hex 2 n ++ rest)) = some (unitsOfCode n, rest) := by
  have high := isHexDigit_digitChar (n / 16) (by omega)
  have low := isHexDigit_digitChar (n % 16) (by omega)
  have number : Numeral.ofDigits 16 [digitChar (n / 16), digitChar (n % 16)] = n := by
    simp only [Numeral.ofDigits, List.foldl_cons, List.foldl_nil,
      (digitValue_digitChar (n / 16) (by omega)).1, (digitValue_digitChar (n % 16) (by omega)).1]
    omega
  rw [hex_two bound]
  simp [escape?, fixedEscape?, high.1, low.1, number]

/-- A digit is not the brace that would make an escape one of any number of digits. -/
theorem escape?_four {a b c d : Char} (digit : isHexDigit a) (rest : List Char) :
    escape? ('u' :: a :: b :: c :: d :: rest) = fixedEscape? [a, b, c, d] rest := by
  have brace : a ≠ '\x7b' := by
    rintro rfl
    revert digit
    decide
  rw [escape?]
  exact brace

theorem escape?_upperHex {n : Nat} (large : 0x1000 ≤ n) (bound : n < 0x10000) (rest : List Char) :
    escape? ('u' :: (upperHex n ++ rest)) = some (unitsOfCode n, rest) := by
  have first := isHexDigit_digitChar (n / 0x1000) (by omega)
  have second := isHexDigit_digitChar (n / 0x100 % 16) (by omega)
  have third := isHexDigit_digitChar (n / 16 % 16) (by omega)
  have fourth := isHexDigit_digitChar (n % 16) (by omega)
  have number : Numeral.ofDigits 16 ((hex 4 n).map Char.toUpper) = n := by
    simp only [hex_four large bound, Numeral.ofDigits, List.map_cons, List.map_nil, List.foldl_cons,
      List.foldl_nil, (digitValue_digitChar (n / 0x1000) (by omega)).2,
      (digitValue_digitChar (n / 0x100 % 16) (by omega)).2,
      (digitValue_digitChar (n / 16 % 16) (by omega)).2,
      (digitValue_digitChar (n % 16) (by omega)).2]
    omega
  rw [upperHex]
  rw [hex_four large bound] at number ⊢
  simp only [List.map_cons, List.map_nil] at number
  simp only [List.map_cons, List.map_nil, List.cons_append, List.nil_append]
  rw [escape?_four first.2, fixedEscape?, number, if_pos]
  simp [first.2, second.2, third.2, fourth.2]

theorem body?_upperHex {quote : Char} {n : Nat} (large : 0x1000 ≤ n) (bound : n < 0x10000)
    (rest : List Char) :
    body? quote ("\\u".toList ++ upperHex n ++ rest) =
      (body? quote rest).map (unitsOfCode n ++ ·) :=
  body?_escape (escape?_upperHex large bound rest)

theorem escape?_control {n : Nat} (bound : n < 32) (rest : List Char) :
    escape? ('u' :: '0' :: '0' :: Json.hexDigit (n / 16) :: Json.hexDigit n :: rest) =
      some (unitsOfCode n, rest) := by
  have high := isHexDigit_digitChar (n / 16 % 16) (by omega)
  have low := isHexDigit_digitChar (n % 16) (by omega)
  have number : Numeral.ofDigits 16 ['0', '0', Json.hexDigit (n / 16), Json.hexDigit n] = n := by
    have zero : Numeral.digitValue '0' = 0 := by decide
    simp only [Json.hexDigit, Numeral.ofDigits, List.foldl_cons, List.foldl_nil, zero,
      (digitValue_digitChar (n / 16 % 16) (by omega)).1,
      (digitValue_digitChar (n % 16) (by omega)).1]
    omega
  rw [escape?_four (by decide), fixedEscape?, number, if_pos]
  simp only [List.all_cons, List.all_nil, Json.hexDigit, high.1, low.1]
  decide

/-- What the data notation writes for a character denotes the character. -/
theorem body?_quotedChar (c : Char) (rest : List Char) :
    body? '"' (Json.quotedChar c ++ rest) = (body? '"' rest).map (unitsOfCode c.toNat ++ ·) := by
  unfold Json.quotedChar
  split
  case h_8 =>
    split
    case isTrue control => exact body?_escape (escape?_control control rest)
    case isFalse visible =>
      exact body?_plain ‹_› ‹_› ‹_› ‹_›
  all_goals exact body?_escape rfl

/-- A zero on its own, with no digit behind it that would make it a number in base eight. -/
theorem escape?_zero {rest : List Char} (digit : rest.head?.any Char.isDigit = false) :
    escape? ('0' :: rest) = some (units ['\x00'], rest) := by
  rw [escape?, digit, if_neg Bool.false_ne_true]

/-- A character beyond the first plane is the two halves of its pair, in turn. -/
theorem unitsOfCode_pair {n : Nat} (large : 0x10000 ≤ n) (bound : n < 0x110000) :
    unitsOfCode n = unitsOfCode ((n - 0x10000) / 0x400 + 0xD800) ++
      unitsOfCode ((n - 0x10000) % 0x400 + 0xDC00) := by
  simp only [unitsOfCode]
  rw [if_neg (by omega), if_pos (by omega), if_pos (by omega)]
  rfl

/-- What a printed script writes for a character denotes the character, unless it is a backslash that
is not escaped. -/
theorem body?_stringChar (edition : Edition) {quote c : Char} {next rest : List Char}
    (closing : c ≠ quote) (whole : ¬(c = '\\' ∧ startsSurrogate next))
    (behind : rest.head?.any Char.isDigit → next.head?.any Char.isDigit) :
    body? quote (stringChar edition c next ++ rest) =
      (body? quote rest).map (unitsOfCode c.toNat ++ ·) := by
  unfold stringChar
  split
  case h_1 =>
    split
    case isTrue => exact body?_escape rfl
    case isFalse plain =>
      have digit : rest.head?.any Char.isDigit = false := by
        rw [Bool.or_eq_true, not_or] at plain
        exact Bool.eq_false_iff.mpr fun digit => plain.2 (behind digit)
      exact body?_escape (escape?_zero digit)
  case h_7 => exact body?_plain (by decide) closing (by decide) (by decide)
  case h_8 =>
    rw [if_neg fun starts => whole ⟨rfl, starts⟩]
    exact body?_escape rfl
  case h_12 =>
    dsimp only
    split
    case isTrue control => exact body?_escape (escape?_hex (by omega) rest)
    case isFalse visible =>
      split
      case isTrue latin => exact body?_escape (escape?_hex (by omega) rest)
      case isFalse =>
        split
        case isTrue astral =>
          have bound := toNat_bound c
          rw [List.append_assoc, List.append_assoc, ← List.append_assoc "\\u".toList,
            body?_upperHex (by omega) (by omega), body?_upperHex (by omega) (by omega),
            unitsOfCode_pair astral.1 bound, Option.map_map]
          simp only [Function.comp_def, List.append_assoc]
        case isFalse => exact body?_plain ‹_› closing ‹_› ‹_›
  all_goals exact body?_escape rfl

/-- A digit that opens what is written for a character is the character. -/
theorem stringChar_digit {edition : Edition} {c : Char} {next rest : List Char}
    (digit : (stringChar edition c next ++ rest).head?.any Char.isDigit) : c.isDigit := by
  unfold stringChar at digit
  dsimp only at digit
  split at digit
  case h_12 =>
    split_ifs at digit
    case neg => exact digit
    all_goals cases digit
  all_goals
    try split_ifs at digit
    all_goals cases digit

theorem stringBody_digit {edition : Edition} {quote : Char} {text : List Char}
    (mark : quote.isDigit = false)
    (digit : (stringBody edition quote text ++ [quote]).head?.any Char.isDigit) :
    text.head?.any Char.isDigit := by
  cases text with
  | nil => exact absurd digit (by simp [stringBody, mark])
  | cons c next =>
    rw [stringBody, List.append_assoc] at digit
    split at digit
    case isTrue => cases digit
    case isFalse => exact stringChar_digit digit

/-- Letters, digits and marks that no literal treats apart. -/
theorem stringChar_plain {edition : Edition} {c : Char} {next : List Char} (visible : 32 ≤ c.toNat)
    (ascii : c.toNat < 127) (escape : c ≠ '\\') : stringChar edition c next = [c] := by
  unfold stringChar
  split
  case h_8 => exact absurd rfl escape
  case h_12 =>
    dsimp only
    rw [if_neg (by omega), if_neg (by omega), if_neg (by omega)]
  all_goals exact absurd (And.intro visible ascii) (by decide)

theorem isHexDigit_ascii {c : Char} (digit : isHexDigit c) : 48 ≤ c.toNat ∧ c.toNat ≤ 102 := by
  simp only [isHexDigit, Char.isDigit, Bool.or_eq_true, Bool.and_eq_true, decide_eq_true_eq,
    Char.le_def, UInt32.le_iff_toNat_le] at digit
  unfold Char.toNat
  obtain (decimal | lower) | upper := digit
  · exact ⟨decimal.1, Nat.le_trans decimal.2 (by decide)⟩
  · exact ⟨Nat.le_trans (by decide) lower.1, lower.2⟩
  · exact ⟨Nat.le_trans (by decide) upper.1, Nat.le_trans upper.2 (by decide)⟩

/-- Digits in base sixteen are written as they are. -/
theorem stringBody_digits {edition : Edition} {quote : Char} (mark : isHexDigit quote = false)
    {digits : List Char} (all : digits.all isHexDigit) (rest : List Char) :
    stringBody edition quote (digits ++ rest) = digits ++ stringBody edition quote rest := by
  induction digits with
  | nil => rfl
  | cons d digits ih =>
    simp only [List.all_cons, Bool.and_eq_true] at all
    have ascii := isHexDigit_ascii all.1
    have closing : d ≠ quote := by
      rintro rfl
      rw [mark] at all
      cases all.1
    have escape : d ≠ '\\' := by
      rintro rfl
      exact absurd all.1 (by decide)
    rw [List.cons_append, stringBody, if_neg closing,
      stringChar_plain (by omega) (by omega) escape, ih all.2]
    rfl

/-- A code from the first half of a surrogate pair on begins with a unit that no character of the
first plane before it has. -/
theorem unitsOfCode_head {n : Nat} (large : 0xD800 ≤ n) (bound : n ≤ 0x10FFFF) :
    ∃ u us, unitsOfCode n = u :: us ∧ 0xD800 ≤ u.toNat := by
  unfold unitsOfCode
  split
  case isTrue small =>
    refine ⟨_, _, rfl, ?_⟩
    rw [UInt16.toNat_ofNat_of_lt' small]
    exact large
  case isFalse =>
    have half : (n - 0x10000) / 0x400 + 0xD800 < UInt16.size := by
      change _ < 0x10000
      omega
    refine ⟨_, _, rfl, ?_⟩
    rw [UInt16.toNat_ofNat_of_lt' half]
    omega

theorem ofDigits_le_append (base : Nat) (digits more : List Char) (positive : 0 < base) :
    Numeral.ofDigits base digits ≤ Numeral.ofDigits base (digits ++ more) := by
  induction more generalizing digits with
  | nil => simp
  | cons d more ih =>
    calc Numeral.ofDigits base digits
        ≤ Numeral.ofDigits base digits * base + Numeral.digitValue d :=
          Nat.le_trans (Nat.le_mul_of_pos_right _ positive) (Nat.le_add_right ..)
      _ = Numeral.ofDigits base (digits ++ [d]) := by simp [Numeral.ofDigits]
      _ ≤ Numeral.ofDigits base (digits ++ [d] ++ more) := ih _
      _ = Numeral.ofDigits base (digits ++ d :: more) := by simp

/-- An escape whose digits begin with those of half a surrogate pair does not denote a backslash. -/
theorem escape?_fixed {digits rest rest' : List Char} {us : List UInt16}
    (half : isSurrogate digits) (read : escape? ('u' :: (digits ++ rest)) = some (us, rest')) :
    ∃ u us', us = u :: us' ∧ 0xD800 ≤ u.toNat := by
  simp only [isSurrogate, Bool.and_eq_true, decide_eq_true_eq] at half
  obtain ⟨⟨⟨length, all⟩, large⟩, bound⟩ := half
  match digits, length with
  | [a, b, c, d], _ =>
    have digit : isHexDigit a := by
      simp only [List.all_cons, Bool.and_eq_true] at all
      exact all.1
    simp only [List.cons_append, List.nil_append] at read
    rw [escape?_four digit, fixedEscape?, if_pos all] at read
    cases read
    exact unitsOfCode_head large (by omega)

theorem escape?_braced {digits rest rest' : List Char} {us : List UInt16}
    (half : isSurrogate digits)
    (read : escape? ('u' :: '\x7b' :: (digits ++ rest)) = some (us, rest')) :
    ∃ u us', us = u :: us' ∧ 0xD800 ≤ u.toNat := by
  simp only [isSurrogate, Bool.and_eq_true, decide_eq_true_eq] at half
  obtain ⟨⟨⟨length, all⟩, large⟩, bound⟩ := half
  have taken : (digits ++ rest).takeWhile isHexDigit = digits ++ rest.takeWhile isHexDigit :=
    List.takeWhile_append_of_pos (by simpa using all)
  rw [escape?, bracedEscape?, taken] at read
  split at read
  · split_ifs at read with valid
    cases read
    exact unitsOfCode_head (Nat.le_trans large (ofDigits_le_append 16 _ _ (by decide))) valid.2
  · cases read

/-- What is read at a backslash that is not escaped is not a backslash. -/
theorem escape?_startsSurrogate {edition : Edition} {quote : Char} (mark : quote ∈ ['"', '\x27'])
    {next rest : List Char} {us : List UInt16} (starts : startsSurrogate next)
    (read : escape? (stringBody edition quote next ++ [quote]) = some (us, rest)) :
    ∃ u us', us = u :: us' ∧ 0xD800 ≤ u.toNat := by
  have written (c : Char) (plain : c ∈ ['u', '\x7b']) (rest : List Char) :
      stringBody edition quote (c :: rest) = c :: stringBody edition quote rest := by
    simp only [List.mem_cons, List.not_mem_nil, or_false] at mark plain
    rw [stringBody, if_neg, stringChar_plain]
    · rfl
    all_goals obtain rfl | rfl := mark <;> obtain rfl | rfl := plain <;> decide
  have digits : isHexDigit quote = false := by
    simp only [List.mem_cons, List.not_mem_nil, or_false] at mark
    obtain rfl | rfl := mark <;> decide
  unfold startsSurrogate at starts
  split at starts
  next text =>
    have all : (text.take 4).all isHexDigit := by
      simp only [isSurrogate, Bool.and_eq_true] at starts
      exact starts.1.1.2
    rw [written _ (by simp), written _ (by simp), ← List.take_append_drop 4 text,
      stringBody_digits digits all, List.cons_append, List.cons_append, List.append_assoc] at read
    exact escape?_braced starts read
  next text _ =>
    have all : (text.take 4).all isHexDigit := by
      simp only [isSurrogate, Bool.and_eq_true] at starts
      exact starts.1.1.2
    rw [written _ (by simp), ← List.take_append_drop 4 text, stringBody_digits digits all,
      List.cons_append, List.append_assoc] at read
    exact escape?_fixed starts read
  next => cases starts

theorem body?_startsSurrogate {edition : Edition} {quote : Char} (mark : quote ∈ ['"', '\x27'])
    {next : List Char} {us : List UInt16} (starts : startsSurrogate next) :
    body? quote (stringChar edition '\\' next ++ (stringBody edition quote next ++ [quote])) ≠
      some (unitsOfCode '\\'.toNat ++ us) := by
  intro read
  have single : stringChar edition '\\' next = ['\\'] := if_pos starts
  rw [single, List.singleton_append] at read
  cases escaped : escape? (stringBody edition quote next ++ [quote]) with
  | none =>
    rw [body?_escape_none escaped] at read
    cases read
  | some p =>
    obtain ⟨u, us', head, large⟩ := escape?_startsSurrogate mark starts escaped
    rw [body?_escape escaped, head] at read
    obtain ⟨vs, -, same⟩ := Option.map_eq_some_iff.mp read
    obtain ⟨rfl, -⟩ := List.cons.inj same
    exact absurd large (by decide)

/-- Whether a text holds a backslash before the digits of half a surrogate pair. -/
def escapesSurrogate : List Char → Bool
  | [] => false
  | c :: next => (c == '\\' && startsSurrogate next) || escapesSurrogate next

theorem map_append_eq_some {us vs : List UInt16} {read : Option (List UInt16)} :
    read.map (us ++ ·) = some (us ++ vs) ↔ read = some vs := by simp

/-- What a printed script writes for a text denotes the text just if no backslash is left alone. -/
theorem body?_stringBody {edition : Edition} {quote : Char} (mark : quote ∈ ['"', '\x27'])
    (text : List Char) :
    body? quote (stringBody edition quote text ++ [quote]) = some (units text) ↔
      escapesSurrogate text = false := by
  have escape : quote ≠ '\\' := by
    rintro rfl
    exact absurd mark (by decide)
  have decimal : quote.isDigit = false := by
    simp only [List.mem_cons, List.not_mem_nil, or_false] at mark
    obtain rfl | rfl := mark <;> decide
  induction text with
  | nil => simp [stringBody, body?_closing escape, escapesSurrogate]
  | cons c next ih =>
    rw [stringBody, List.append_assoc, units_cons, escapesSurrogate]
    by_cases closing : c = quote
    · subst closing
      have marked : c ∈ ['"', '\x27', '\\'] := List.mem_append_left ['\\'] mark
      have read : body? c ('\\' :: c :: (stringBody edition c next ++ [c])) = _ :=
        body?_escape (escape?_self marked _)
      simp only [if_pos, List.cons_append, List.nil_append, read, map_append_eq_some]
      simp [escape, ih]
    rw [if_neg closing]
    by_cases single : c = '\\' ∧ startsSurrogate next
    · simp only [single, beq_self_eq_true, Bool.and_self, Bool.true_or, Bool.true_eq_false,
        iff_false]
      exact body?_startsSurrogate mark single.2
    · have whole : (c == '\\' && startsSurrogate next) = false := by simpa using single
      rw [body?_stringChar edition closing single (stringBody_digit decimal), map_append_eq_some,
        whole, Bool.false_or]
      exact ih

theorem body?_quoted (text : List Char) :
    body? '"' (text.flatMap Json.quotedChar ++ ['"']) = some (units text) := by
  induction text with
  | nil => exact body?_closing (by decide)
  | cons c next ih =>
    rw [List.flatMap_cons, List.append_assoc, body?_quotedChar, ih]
    rfl

theorem value?_quoted (text : String) : value? (Json.quoted text) = some (units text.toList) := by
  rw [value?, Json.quoted, String.toList_ofList]
  exact body?_quoted text.toList

theorem value?_string (edition : Edition) (text : String) :
    value? (Spelling.string edition text) = some (units text.toList) ↔
      escapesSurrogate text.toList = false := by
  rw [value?, Spelling.string, String.toList_ofList]
  split_ifs
  · exact body?_stringBody (by simp) text.toList
  · exact body?_stringBody (by simp) text.toList

end ScriptBundle.Script.Literal
