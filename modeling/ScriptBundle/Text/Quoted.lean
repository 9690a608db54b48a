import ScriptBundle.Text.Escaped
import ScriptBundle.Path

/-! Names in messages stand in double quotes; a quote, a backslash and the usual controls have
short escapes, other characters that a reader could not see are written as code points. -/
namespace ScriptBundle.Text

/-- The digits of a number in base sixteen, without leading zeros. -/
def hexDigits (n : Nat) : List Char := Nat.toDigits 16 n

/-- How a quoted name writes one character. -/
def quotedChar (c : Char) : List Char :=
  match c with
  | '\x00' => ['\\', '0']
  | '\t' => ['\\', 't']
  | '\n' => ['\\', 'n']
  | '\r' => ['\\', 'r']
  | '"' => ['\\', '"']
  | '\\' => ['\\', '\\']
  | c =>
    if inRanges escapedRanges c then ['\\', 'u', '\x7b'] ++ hexDigits c.toNat ++ ['\x7d']
    else [c]

/-- A name in double quotes. -/
def quoted (text : String) : String :=
  String.ofList ('"' :: text.toList.flatMap quotedChar ++ ['"'])

end ScriptBundle.Text

namespace ScriptBundle

def Path.quoted (p : Path) : String := Text.quoted p.text

end ScriptBundle
