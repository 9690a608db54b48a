import ScriptBundle.Text.Ranges

/-! Blank characters: those with the property White_Space. -/
namespace ScriptBundle.Text

/-- The code points at which blanks begin and end. -/
def blankRanges : Array Nat :=
  #[0x9, 0xE, 0x20, 0x21, 0x85, 0x86, 0xA0, 0xA1, 0x1680, 0x1681, 0x2000, 0x200B, 0x2028, 0x202A,
    0x202F, 0x2030, 0x205F, 0x2060, 0x3000, 0x3001]

def isBlank (c : Char) : Bool := inRanges blankRanges c

/-- A text without the blanks at its ends. -/
def trimmed (text : String) : String :=
  String.ofList ((text.toList.dropWhile isBlank).reverse.dropWhile isBlank).reverse

end ScriptBundle.Text
