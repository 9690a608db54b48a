import ScriptBundle.Script.Tree

/-! Nodes that are written and not read: the expressions and statements that stand for syntax which
plain scripts do not have. -/
namespace ScriptBundle.Script.Node

def access (object : Node) (name : String) : Node := mk (.member false) 0 [object, word name]

def call (callee : Node) (arguments : List Node) : Node :=
  mk (.call false) 0 (callee :: arguments)

def assign (target value : Node) : Node := mk (.assign "=") 0 [target, value]

def object (properties : List Node) : Node := mk .object 0 properties

def property (key value : Node) : Node := mk .property 0 [key, value]

def shorthand (name : Node) : Node := mk .shorthand 0 [name, absent]

def statement (expression : Node) : Node := mk .expression 0 [expression]

def block (statements : List Node) : Node := mk .block 0 statements

/-- One variable with a value, or without one. -/
def declaration (binding : Binding) (pattern value : Node) : Node :=
  mk (.variableList binding false) 0 [mk .declarator 0 [pattern, value]]

/-- A string that is spelt as the printer likes. -/
def text (value : String) : Node := leaf (.string value none)

/-- Expressions in a row, of which there is at least one. -/
def sequenceOf : List Node → Node
  | [only] => only
  | several => mk .sequence 0 several

end ScriptBundle.Script.Node
