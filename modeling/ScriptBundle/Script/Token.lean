import ScriptBundle.Script.Diagnostic
import ScriptBundle.Script.Numeral

/-! Tokens of scripts, and the classes of words and signs that the grammar speaks of. A template is
no token: its quotes are signs and what stands between them is read on its own. A regular
expression is a token only where an expression may begin. -/
namespace ScriptBundle.Script

inductive Token where
  | word (text : String)
  | sign (text : String)
  | string (value raw : String)
  | number (text : String)
  | bigint (text : String)
  | regex (pattern flags : String)
  | wrong (complaint : Complaint)
  | finish
  deriving DecidableEq, Inhabited, Repr

/-- The integer that digits denote, as text in base ten. -/
def integerText (text : String) : String :=
  let (base, digits) := Numeral.radix (text.toList.filter (fun c => c ≠ '_' && c ≠ 'n'))
  toString (Numeral.ofDigits base digits)

namespace Token

/-- How a complaint shows a token. -/
def shown : Token → String
  | .word text => text
  | .sign text => text
  | .string value raw => "string literal (" ++ value ++ ", " ++ raw ++ ")"
  | .number text =>
    "numeric literal (" ++ Numeral.text (Numeral.value text) ++ ", " ++ text ++ ")"
  | .bigint text => "bigint literal (" ++ integerText text ++ ", " ++ text ++ ")"
  | .regex pattern flags => "regexp literal (" ++ pattern ++ ", " ++ flags ++ ")"
  | .wrong _ => "<lexing error>"
  | .finish => "<eof>"

def isWord : Token → Bool
  | .word _ => true
  | _ => false

end Token

/-- Words that never are names. -/
def keywords : List String :=
  ["break", "case", "catch", "class", "const", "continue", "debugger", "default", "delete", "do",
    "else", "export", "extends", "finally", "for", "function", "if", "import", "in", "instanceof",
    "new", "return", "super", "switch", "this", "throw", "try", "typeof", "var", "void", "while",
    "with", "null", "true", "false"]

/-- Words that are no names in modules, whose code is always strict. -/
def strictWords : List String :=
  ["let", "yield", "await", "enum", "implements", "package", "protected", "interface", "private",
    "public"]

def isReserved (text : String) : Bool := keywords.contains text || strictWords.contains text

/-- Names that strict code may not bind. -/
def isUnbindable (text : String) : Bool := text = "eval" || text = "arguments"

/-- How tightly a binary operator binds. -/
def precedence? (operator : String) : Option Nat :=
  match operator with
  | "??" | "||" => some 1
  | "&&" => some 2
  | "|" => some 3
  | "^" => some 4
  | "&" => some 5
  | "==" | "!=" | "===" | "!==" => some 6
  | "<" | "<=" | ">" | ">=" | "in" | "instanceof" => some 7
  | "<<" | ">>" | ">>>" => some 8
  | "+" | "-" => some 9
  | "*" | "/" | "%" => some 10
  | "**" => some 11
  | _ => none

def assignmentSigns : List String :=
  ["=", "+=", "-=", "*=", "/=", "%=", "<<=", ">>=", ">>>=", "|=", "^=", "&=", "**=", "&&=", "||=",
    "??="]

namespace Token

/-- Whether a token is a sign that joins two operands. -/
def isBinarySign : Token → Bool
  | .sign text => (precedence? text).isSome
  | _ => false

/-- Whether an expression may begin with a token. -/
def startsExpression : Token → Bool
  | .word text => !(["in", "instanceof", "as", "satisfies", "of", "extends", "implements", "case",
      "catch", "const", "default", "else", "finally", "var"].contains text)
  | .sign text => ["(", "[", "\x7b", "+", "-", "~", "!", "++", "--", "`", "/", "/=", "<", "#",
      "@"].contains text
  | .string .. | .number _ | .bigint _ | .regex .. => true
  | .wrong _ | .finish => false

end Token

end ScriptBundle.Script
