import ScriptBundle.Text.Width
import ScriptBundle.Script.Diagnostic

/-! Places in a source as readers count them: lines from one, and in a line the columns that a
display gives the characters, from one. A character beyond the first plane takes one column more. -/
namespace ScriptBundle.Script

structure Location where
  line : Nat
  column : Nat
  deriving DecidableEq, Inhabited, Repr

namespace Location

def start : Location := ⟨1, 1⟩

def nextLine (l : Location) : Location := ⟨l.line + 1, 1⟩

def pass (l : Location) (c : Char) : Location :=
  ⟨l.line, l.column + Text.displayWidth c + if 0xffff < c.toNat then 1 else 0⟩

/-- The place after a number of characters. -/
def after (l : Location) : List Char → Nat → Location
  | [], _ => l
  | _, 0 => l
  | '\n' :: rest, n + 1 => l.nextLine.after rest n
  | '\r' :: '\n' :: rest, n + 2 => l.nextLine.after rest n
  | '\r' :: rest, n + 1 => l.nextLine.after rest n
  | c :: rest, n + 1 => (l.pass c).after rest n

end Location

/-- What is wrong with a source, and where. -/
def Complaint.text (complaint : Complaint) (source : String) : String :=
  let place := Location.start.after source.toList complaint.offset
  complaint.cause.message ++ " (line " ++ toString place.line ++ ", column " ++
    toString place.column ++ ")"

end ScriptBundle.Script
