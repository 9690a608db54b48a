import ScriptBundle.Script.Document
import ScriptBundle.Script.Spelling
import ScriptBundle.Script.Adjacency

/-! Printing scripts. What is printed for a node is made from what is printed for its parts, so the
printer is one rule for every kind of node. Nothing is added for the sake of meaning: parentheses
are printed where the tree has them. -/
namespace ScriptBundle.Script.Printer

open Document

/-- The ways to print a node: the usual one, and the one in a place where its neighbour sits close to
it. A number before a dot, `new` in front of a further access, a function whose body follows its
parameters at once, and a declaration at the head of a loop have a close form of their own. -/
structure Printed where
  usual : Document
  close : Document
  deriving Inhabited

abbrev Part := Node × Printed

namespace Part

def doc (p : Part) : Document := p.2.usual

def close (p : Part) : Document := p.2.close

def isAbsent (p : Part) : Bool := p.1.isAbsent

/-- The part after a blank, if there is such a part. -/
def spaced (p : Part) : Document := given (!p.isAbsent) (space ++ p.doc)

def gapped (p : Part) : Document := given (!p.isAbsent) (gap ++ p.doc)

/-- The part after a word. -/
def afterWord (p : Part) : Document := blank p.1.startsWord ++ p.doc

end Part

def docs (ps : List Part) : List Document := ps.map Part.doc

/-- A value after an equals sign, if there is a value. -/
def initially (value : Part) : Document :=
  given (!value.isAbsent) (gap ++ "=" ++ gap ++ value.doc)

def word (isWanted : Bool) (text : String) : Document := given isWanted (text ++ space)

def braces (inner : Document) : Document := "\x7b" ++ inner ++ "\x7d"

def parens (inner : Document) : Document := "(" ++ inner ++ ")"

/-- Documents in braces, each on lines of its own, and nothing between the braces if there are
none. -/
def body (ds : List Document) : Document :=
  braces (given (!ds.isEmpty) (nest (lines ds) ++ line))

/-- Documents one below the other with a comma after each but the last. -/
def listed (ds : List Document) : Document := nest (line ++ separate ("," ++ line) ds) ++ line

/-- Names in braces, in one line. -/
def namesInBraces (ds : List Document) : Document :=
  braces (gap ++ given (!ds.isEmpty) (commas ds ++ gap))

def literal (style : Style) : Kind → Document
  | .identifier name _ => name
  | .word spelling => spelling
  | .privateName spelling => "#" ++ spelling
  | .string value raw =>
    match raw with
    | some raw =>
      if !style.isCompact || (value == "use strict" && raw.contains '\\') then raw
      else Spelling.string style.edition value
    | none => Spelling.string style.edition value
  | .number spelling => Spelling.plainNumber style spelling
  | .bigint spelling => Spelling.bigint style spelling
  | .regex pattern flags => "/" ++ pattern ++ "/" ++ flags
  | .boolean value => if value then "true" else "false"
  | .null => "null"
  | .this => "this"
  | .super => "super"
  | .importKeyword => "import"
  | .metaProperty spelling => spelling
  | .invalid => "<invalid>"
  | _ => nil

/-- The chunks of a template with the expressions between them. -/
def templateParts (ps : List Part) : Document :=
  concat (ps.map fun p =>
    match p.1.kind with
    | .chunk .. => p.doc
    | _ => "$\x7b" ++ p.doc ++ "\x7d")

/-- The raw chunks of a template that a function gets to see. -/
def rawChunks (ps : List Part) : Document :=
  concat (ps.map fun p =>
    match p.1.kind with
    | .chunk raw _ => raw
    | _ => "$\x7b" ++ p.doc ++ "\x7d")

def isKeywordOperator (operator : String) : Bool := operator == "in" || operator == "instanceof"

/-- Two operands with an operator between them. -/
def binary (style : Style) (operator : String) (left right : Part) : Document :=
  let isWord := isKeywordOperator operator
  let before : Bool := !style.isCompact ||
    (if isWord then left.1.endsWord else left.1.clashesBefore operator)
  let after : Bool := !style.isCompact ||
    (if isWord then right.1.startsWord else right.1.clashesAfter operator)
  left.doc ++ blank before ++ operator ++ blank after ++ right.doc

/-- `new` with a class and arguments; empty parentheses are left out of compact scripts if nothing
follows that would take their place. -/
def construction (style : Style) (hasArguments isClose : Bool) (callee : Part)
    (arguments : List Part) : Document :=
  let hasParens : Bool :=
    if hasArguments then !(style.isCompact && arguments.isEmpty && !isClose) else isClose
  "new" ++ callee.afterWord ++ given hasParens (parens (commas (docs arguments)))

def arrow (style : Style) (isAsync : Bool) (params body : Part) : Document :=
  let isSingleName := match params.1.parts with
    | [.mk (.identifier ..) _ _] => true
    | _ => false
  let list := if style.isCompact && isSingleName then params.doc else parens params.doc
  let result := match body.1.kind with
    | .block => body.doc
    | _ => nest body.doc
  given isAsync ("async" ++ blank (!style.isCompact || isSingleName)) ++ list ++ "=>" ++ result

/-- The head of a function up to its parameters. -/
def functionHead (isAsync isGenerator : Bool) (name : Part) : Document :=
  word isAsync "async" ++ "function" ++ given isGenerator "*" ++
    given (!name.isAbsent) (blank (!isGenerator) ++ name.doc)

/-- What marks the kind of a function before the name of a method. -/
def functionMarks : Node → Document
  | .mk (.function isAsync isGenerator) _ _ => word isAsync "async" ++ given isGenerator "*"
  | _ => nil

/-- A method of an object. -/
def objectMethod (kind : MethodKind) (key function : Part) : Document :=
  match kind with
  | .plain => functionMarks function.1 ++ key.doc ++ gap ++ function.doc
  | .getter => "get" ++ key.afterWord ++ gap ++ function.doc
  | .setter => "set" ++ key.afterWord ++ gap ++ function.close

/-- A method of a class. -/
def classMethod (modifiers : Modifiers) (kind : MethodKind) (key function : Part) : Document :=
  let isPrivate := match key.1.kind with
    | .privateName _ => true
    | _ => false
  let needsBlank : Bool := isPrivate || (match kind, function.1.kind with
    | .plain, .function isAsync isGenerator => isAsync || (!isGenerator && key.1.startsWord)
    | _, _ => true)
  let marks := match kind with
    | .plain => functionMarks function.1
    | .getter => "get" ++ blank (isPrivate || key.1.startsWord)
    | .setter => "set" ++ blank (isPrivate || key.1.startsWord)
  given modifiers.isStatic ("static" ++ blank needsBlank) ++ marks ++ key.doc ++ function.doc

def field (modifiers : Modifiers) (isAccessor : Bool) (key value : Part) : Document :=
  let shown := match value.1.kind with
    | .sequence => parens value.doc
    | _ => value.doc
  word modifiers.isStatic "static" ++ word isAccessor "accessor" ++ key.doc ++
    given (!value.isAbsent) (gap ++ "=" ++ gap ++ shown) ++ ";"

/-- A class after its keyword and its name. -/
def classRest (base : Part) (members : List Part) : Document :=
  given (!base.isAbsent) (space ++ "extends" ++ base.afterWord) ++ gap ++
    braces (nest (lines (docs members)) ++ line)

/-- Expressions, patterns and what they are made of. -/
def expression (style : Style) (kind : Kind) (parts : List Part) : Document :=
  match kind, parts with
  | .computed, [inner] => "[" ++ inner.doc ++ "]"
  | .chunk raw _, _ => Spelling.chunk style raw
  | .template, parts => "\x60" ++ templateParts parts ++ "\x60"
  | .taggedTemplate, [tag, template] => tag.doc ++ template.close
  | .array, [] => "[]"
  | .array, parts =>
    let isOpen := (parts.getLast?).any Part.isAbsent
    "[" ++ nest (line ++ separate ("," ++ line) (docs parts) ++ given isOpen ("," ++ gap)) ++
      line ++ "]"
  | .object, [] => "\x7b\x7d"
  | .object, parts => braces (listed (docs parts))
  | .spread, [inner] => "..." ++ inner.doc
  | .parameters, parts => commas (docs parts)
  | .functionExpression, [name, function] =>
    match function.1.kind with
    | .function isAsync isGenerator => functionHead isAsync isGenerator name ++ function.doc
    | _ => nil
  | .arrow isAsync, [params, body] => arrow style isAsync params body
  | .classExpression, [name, body] => "class" ++ name.spaced ++ body.doc
  | .unary operator, [operand] =>
    let isWord := ["typeof", "void", "delete"].contains operator
    operator ++ (if operand.1.needsBlankAfter operator then space else given isWord gap) ++
      operand.doc
  | .update operator isPrefix, [operand] =>
    if isPrefix then operator ++ operand.doc else operand.doc ++ operator
  | .binary operator, [left, right] => binary style operator left right
  | .assign operator, [target, value] => target.doc ++ gap ++ operator ++ gap ++ value.doc
  | .conditional, [test, yes, no] =>
    test.doc ++ gap ++ "?" ++ gap ++ yes.doc ++ gap ++ ":" ++ gap ++ no.doc
  | .sequence, parts => commas (docs parts)
  | .paren, [inner] => parens inner.doc
  | .await, [inner] => "await" ++ space ++ inner.doc
  | .yield isDelegate, [inner] =>
    "yield" ++ given isDelegate "*" ++
      given (!inner.isAbsent) (blank (!isDelegate && inner.1.startsWord) ++ inner.doc)
  | .member isOptional, [object, key] =>
    if isOptional then object.close ++ "?." ++ key.doc else object.close ++ "." ++ key.doc
  | .index isOptional, [object, key] =>
    let object' := match object.1.kind with
      | .number _ => object.doc
      | _ => object.close
    object' ++ given isOptional "?." ++ "[" ++ key.doc ++ "]"
  | .call isOptional, callee :: arguments =>
    let shown := match callee.1.kind with
      | .new _ => if isOptional then callee.doc else callee.close
      | _ => callee.doc
    shown ++ given isOptional "?." ++ parens (commas (docs arguments))
  | .new hasArguments, callee :: arguments =>
    construction style hasArguments false callee arguments
  | .cast, [inner] => inner.doc
  | .property, [key, value] => key.doc ++ ":" ++ gap ++ value.doc
  | .shorthand, [name, value] => name.doc ++ initially value
  | .method kind, [key, function] => objectMethod kind key function
  | .arrayPattern, parts =>
    let isOpen := (parts.getLast?).any Part.isAbsent
    "[" ++ commas (docs parts) ++ given isOpen ("," ++ gap) ++ "]"
  | .objectPattern, [] => "\x7b\x7d"
  | .objectPattern, parts => namesInBraces (docs parts)
  | .rest, [inner] => "..." ++ inner.doc
  | .defaulted, [pattern, value] => pattern.doc ++ gap ++ "=" ++ gap ++ value.doc
  | .parameterProperty, [pattern] => pattern.doc
  | kind, _ => literal style kind

/-- The parts of a function and the members of classes. -/
def member (style : Style) (kind : Kind) (parts : List Part) : Document :=
  match kind, parts with
  | .function .., [params, body] =>
    parens params.doc ++ given body.isAbsent ";" ++ body.gapped
  | .classBody, base :: members => classRest base members
  | .field modifiers isAccessor, [key, value] => field modifiers isAccessor key value
  | .classMethod modifiers kind, [key, function] => classMethod modifiers kind key function
  | .constructor, [_, params, body] =>
    "constructor" ++ parens params.doc ++ given body.isAbsent ";" ++ body.doc
  | .staticBlock, [block] => "static" ++ block.doc
  | .emptyMember, _ => ";"
  | kind, parts => expression style kind parts

/-- The names that an import binds. -/
def importNames (ps : List Part) : Document :=
  let named := ps.filter fun p => match p.1.kind with
    | .importNamed _ => true
    | _ => false
  let whole := ps.filter fun p => match p.1.kind with
    | .importNamed _ => false
    | _ => true
  let startsWithName := match ps.head?.map (·.1.kind) with
    | some .importDefault => true
    | _ => false
  let wholeDocs := commas (docs whole)
  if ps.isEmpty then gap
  else if named.isEmpty then blank startsWithName ++ wholeDocs ++ space ++ "from" ++ gap
  else
    blank startsWithName ++ wholeDocs ++ given (!whole.isEmpty) ("," ++ gap) ++
      namesInBraces (docs named) ++ gap ++ "from" ++ gap

/-- The names that an export takes from elsewhere or from its own module. -/
def exportNames (source attributes : Part) (ps : List Part) : Document :=
  let named := ps.filter fun p => match p.1.kind with
    | .exportName _ => true
    | _ => false
  let whole := ps.filter fun p => match p.1.kind with
    | .exportName _ => false
    | _ => true
  "export" ++ gap ++ commas (docs whole) ++
    given (!whole.isEmpty && !named.isEmpty) ("," ++ gap) ++
    given (whole.isEmpty || !named.isEmpty) (namesInBraces (docs named)) ++
    given (!source.isAbsent)
      ((if named.isEmpty then given (!whole.isEmpty) space else gap) ++ "from" ++ gap ++ source.doc) ++
    given (!attributes.isAbsent) (gap ++ "with" ++ gap ++ attributes.doc) ++ ";"

/-- A name under which something is imported or exported. -/
def renamed (first second : Part) : Document :=
  if second.isAbsent then first.doc else first.doc ++ space ++ "as" ++ space ++ second.doc

/-- A clause of a choice between cases. -/
def clause (test : Part) (statements : List Part) : Document :=
  (if test.isAbsent then ("default" : Document) else "case" ++ test.afterWord) ++ ":" ++
    nest (lines (docs statements))

/-- Statements without the end of their last line. -/
def statement (style : Style) (kind : Kind) (parts : List Part) : Document :=
  match kind, parts with
  | .empty, _ => ";"
  | .expression, [inner] => inner.doc ++ ";"
  | .functionDeclaration _, [name, function] =>
    match function.1.kind with
    | .function isAsync isGenerator => functionHead isAsync isGenerator name ++ function.doc
    | _ => nil
  | .classDeclaration _, [name, body] => "class" ++ name.spaced ++ body.doc
  | .ifElse, [test, yes, no] =>
    let isBlock : Bool := yes.1.kind == .block
    "if" ++ gap ++ parens test.doc ++ gap ++ yes.doc ++
      given (!no.isAbsent) (given isBlock gap ++ "else" ++ no.afterWord)
  | .forLoop, [start, test, step, body] =>
    "for" ++ parens (start.close ++ ";" ++ test.gapped ++ ";" ++ step.gapped) ++ body.doc
  | .forIn, [head, object, body] =>
    "for" ++ parens (head.close ++ blank head.1.endsWord ++ "in" ++ object.afterWord) ++ body.doc
  | .forOf isAwait, [head, iterable, body] =>
    "for" ++ given isAwait (space ++ "await") ++ gap ++
      parens (head.close ++ blank head.1.endsWord ++ "of" ++ iterable.afterWord) ++ body.doc
  | .while, [test, body] => "while" ++ parens test.doc ++ body.doc
  | .doWhile, [body, test] =>
    "do" ++ body.afterWord ++ "while" ++ gap ++ parens test.doc ++
      given (style.edition ≤ .es5) ";"
  | .break label, _ => "break" ++ labelDoc label ++ ";"
  | .continue label, _ => "continue" ++ labelDoc label ++ ";"
  | .return, [value] => "return" ++ given (!value.isAbsent) value.afterWord ++ ";"
  | .throw, [value] => "throw" ++ value.afterWord ++ ";"
  | .try, [block, handler, finalizer] =>
    "try" ++ gap ++ block.doc ++ handler.gapped ++
      given (!finalizer.isAbsent) (gap ++ "finally" ++ finalizer.doc)
  | .catch, [pattern, block] =>
    "catch" ++ gap ++ given (!pattern.isAbsent) (parens pattern.doc) ++ gap ++ block.doc
  | .switch, subject :: cases =>
    "switch" ++ parens subject.doc ++ braces (nest (lines (docs cases)) ++ line)
  | .case, test :: statements => clause test statements
  | .labeled label, [body] => label ++ ":" ++ gap ++ body.doc
  | .debugger, _ => "debugger;"
  | .import _, source :: attributes :: names =>
    "import" ++ importNames names ++ source.doc ++
      given (!attributes.isAbsent) (gap ++ "with" ++ gap ++ attributes.doc) ++ ";"
  | .exportNames _, source :: attributes :: names => exportNames source attributes names
  | .exportAll _, [source, attributes] =>
    "export" ++ gap ++ "*" ++ gap ++ "from" ++ gap ++ source.doc ++
      given (!attributes.isAbsent) (gap ++ "with" ++ gap ++ attributes.doc) ++ ";"
  | .exportDeclaration, [inner] => "export" ++ space ++ inner.doc
  | .exportDefault, [value] =>
    "export" ++ space ++ "default" ++ value.afterWord ++ ";"
  | .exportDefaultDeclaration, [inner] => "export" ++ space ++ "default" ++ space ++ inner.doc
  | _, _ => nil
where
  labelDoc : Option String → Document
    | some label => space ++ label
    | none => nil

/-- How the names of imports and exports are printed, and the blocks and declarations that need no
line of their own. -/
def clauseOrMember (style : Style) (kind : Kind) (parts : List Part) : Document :=
  match kind, parts with
  | .block, parts => body (docs parts)
  | .declarator, [pattern, value] => pattern.doc ++ initially value
  | .importDefault, [name] => name.doc
  | .importNamespace, [name] => "*" ++ gap ++ "as" ++ space ++ name.doc
  | .importNamed _, [imported, name] =>
    if imported.isAbsent then name.doc else renamed imported name
  | .exportName _, [name, exported] => renamed name exported
  | .exportNamespace, [name] => "*" ++ gap ++ "as" ++ space ++ name.doc
  | kind, parts => member style kind parts

/-- Whether a node is a statement or an item, whose last line ends with it. -/
def endsLine : Kind → Bool
  | .empty | .expression | .functionDeclaration _ | .classDeclaration _ | .ifElse | .forLoop
  | .forIn | .forOf _ | .while | .doWhile | .break _ | .continue _ | .return | .throw | .try
  | .switch | .labeled _ | .debugger | .import _ | .exportNames _ | .exportAll _
  | .exportDeclaration | .exportDefault | .exportDefaultDeclaration => true
  | _ => false

/-- Declared variables without the mark that ends the statement. -/
def variableList (binding : Binding) (ps : List Part) : Document :=
  let startsWithName : Bool := match ps.head? with
    | some (.mk .declarator _ (pattern :: _), _) =>
      match pattern.kind with
      | .arrayPattern | .objectPattern | .rest => false
      | _ => true
    | _ => true
  binding.word ++ blank startsWithName ++ commas (docs ps)

/-- What is printed for a node. -/
def rule (style : Style) (kind : Kind) (_offset : Nat) (parts : List Part) : Printed :=
  match kind, parts with
  | .number spelling, _ =>
    let (spelt, needsDot) := Spelling.number style spelling
    ⟨Spelling.plainNumber style spelling, spelt ++ given needsDot "."⟩
  | .new hasArguments, callee :: arguments =>
    ⟨construction style hasArguments false callee arguments,
      construction style hasArguments true callee arguments⟩
  | .template, parts => ⟨expression style .template parts, "\x60" ++ rawChunks parts ++ "\x60"⟩
  | .function a g, [params, body] =>
    ⟨member style (.function a g) [params, body], parens params.doc ++ body.doc⟩
  | .variableList binding _, parts =>
    let shown := variableList binding parts
    ⟨shown ++ ";" ++ line, shown⟩
  | .using isAwait, parts =>
    let shown := word isAwait "await" ++ "using" ++ space ++ commas (docs parts)
    ⟨shown ++ line, shown⟩
  | kind, parts =>
    if endsLine kind then
      let shown := statement style kind parts ++ line
      ⟨shown, shown⟩
    else
      let shown := match kind with
        | .catch | .case => statement style kind parts
        | kind => clauseOrMember style kind parts
      ⟨shown, shown⟩

end ScriptBundle.Script.Printer

namespace ScriptBundle.Script

namespace Node

/-- The document for a node. -/
def print (style : Style) (n : Node) : Document := (n.fold (Printer.rule style)).usual

end Node

/-- The text of a module. -/
def Module.print (style : Style) (m : Module) : String :=
  let shebang := match m.interpreter with
    | some line => "#!" ++ line ++ "\n"
    | none => ""
  shebang ++ (Document.concat (m.items.map (Node.print style))).render style.isCompact

end ScriptBundle.Script
