import ScriptBundle.Script.Tree

/-! Which nodes begin or end with a character of a word. Two such characters in a row would be read
as one word, so a blank must stand between them even in the compact layout. -/
namespace ScriptBundle.Script.Node

/-- Whether a node begins with a character of a word. An arrow function that is not asynchronous is
judged by its only parameter. -/
def startsWord : Node → Bool
  | mk .parameters _ [only] => only.startsWord
  | mk (.arrow isAsync) _ [params, _] => isAsync || params.startsWord
  | mk .taggedTemplate _ (tag :: _) => tag.startsWord
  | mk (.update _ isPrefix) _ [operand] => !isPrefix && operand.startsWord
  | mk (.binary _) _ (left :: _) => left.startsWord
  | mk (.assign _) _ (target :: _) => target.startsWord
  | mk .conditional _ (test :: _) => test.startsWord
  | mk .sequence _ (first :: _) => first.startsWord
  | mk (.member _) _ (object :: _) => object.startsWord
  | mk (.index _) _ (object :: _) => object.startsWord
  | mk (.call _) _ (callee :: _) => callee.startsWord
  | mk .defaulted _ (pattern :: _) => pattern.startsWord
  | mk .expression _ [inner] => inner.startsWord
  | mk kind _ _ =>
    match kind with
    | .unary operator => ["typeof", "void", "delete"].contains operator
    | .absent | .privateName _ | .computed | .string .. | .regex .. | .chunk .. | .template
    | .taggedTemplate | .array | .object | .spread | .parameters | .arrow _ | .update ..
    | .paren | .arrayPattern | .objectPattern | .rest | .block | .empty => false
    | _ => true

/-- Whether a node ends with a character of a word, or may end with one. -/
def endsWord : Node → Bool
  | mk (.variableList ..) _ [only] => only.endsWord
  | mk (.using _) _ [only] => only.endsWord
  | mk .declarator _ [pattern, mk .absent _ _] => pattern.endsWord
  | mk .declarator _ [_, value] => value.endsWord
  | mk .rest _ [pattern] => pattern.endsWord
  | mk .defaulted _ [_, value] => value.endsWord
  | mk kind _ _ =>
    match kind with
    | .array | .object | .string .. | .paren | .arrayPattern | .objectPattern => false
    | _ => true

/-- Whether an operator and the operand after it would be read as another operator if no blank
stood between them. -/
def clashesAfter (operator : String) : Node → Bool
  | mk (.number text) _ _ => operator == "-" && text.startsWith "-"
  | mk (.update sign true) _ _ => sign == operator ++ operator
  | mk (.unary "!") _ [mk (.update "--" true) _ _] => operator == "<"
  | mk (.unary sign) _ _ => sign == operator
  | mk (.binary _) _ (left :: _) => left.clashesAfter operator
  | _ => false

/-- Whether an operand and the operator after it would be read as the start of a comment. -/
def clashesBefore (operator : String) : Node → Bool
  | mk (.update "--" false) _ _ => operator.startsWith ">"
  | _ => false

/-- Whether a blank must stand between a unary operator and its operand. -/
def needsBlankAfter (operator : String) (operand : Node) : Bool :=
  if ["typeof", "void", "delete"].contains operator then operand.startsWord
  else
    match operand with
    | mk (.update sign true) _ _ => sign == operator ++ operator
    | mk (.unary sign) _ _ => sign == operator && (operator == "-" || operator == "+")
    | mk (.number text) _ _ => operator == "-" && text.startsWith "-"
    | _ => false

end ScriptBundle.Script.Node
