/-! Trees of scripts. A node has a kind, the place in the source where it begins, and its parts in a
fixed order that its kind lays down; where a part may be missing, the node `absent` stands in its
place. Modules, statements, patterns and expressions are all nodes, so a pass over a whole module is
one recursion. Of types, a tree keeps the expressions that stand in them. -/
namespace ScriptBundle.Script

/-- What the scopes of a module say of a name: nothing yet (so also of generated names), that no
declaration of the module binds it, or the number of the scope that binds it. -/
inductive Mark where
  | unknown
  | unresolved
  | scope (number : Nat)
  deriving DecidableEq, Inhabited, Repr

/-- A name together with what it stands for. -/
abbrev Symbol := String × Mark

inductive Binding where
  | var
  | let
  | const
  deriving DecidableEq, Inhabited, Repr

def Binding.word : Binding → String
  | .var => "var"
  | .let => "let"
  | .const => "const"

inductive MethodKind where
  | plain
  | getter
  | setter
  deriving DecidableEq, Inhabited, Repr

/-- What is written before the name of a class member, as far as it decides what remains of it. -/
structure Modifiers where
  isStatic : Bool
  isAbstract : Bool
  isDeclared : Bool
  deriving DecidableEq, Inhabited, Repr

def Modifiers.none : Modifiers := ⟨false, false, false⟩

/-- The kinds of nodes. The comment after a kind names its parts; `x*` stands for any number of
parts, `x?` for one that may be absent. What types hold that belong to a node comes after these parts
and is not mentioned: annotations of names, patterns and fields, type arguments of calls, type
parameters and results of functions. -/
inductive Kind where
  | absent
  /-- What stands where the source is wrong but reading went on. -/
  | invalid
  -- names and literals
  | identifier (name : String) (mark : Mark)
  | word (text : String)
  | privateName (text : String)
  | computed                                          -- expression
  | string (value : String) (raw : Option String)
  | number (text : String)
  | bigint (text : String)
  | regex (pattern flags : String)
  | boolean (value : Bool)
  | null
  | this
  | super
  | importKeyword
  | metaProperty (text : String)
  | chunk (raw : String) (cooked : Option String)
  -- expressions
  | template                                          -- chunk, (expression, chunk)*
  | taggedTemplate                                    -- tag, template
  | array                                             -- element?*
  | object                                            -- property*
  | spread                                            -- expression
  | function (isAsync isGenerator : Bool)             -- parameters, body?
  | parameters                                        -- pattern or types of a receiver*
  | functionExpression                                -- name?, function
  | arrow (isAsync : Bool)                            -- parameters, body
  | classBody                                         -- base?, member*
  | classExpression                                   -- name?, class body
  | unary (operator : String)                         -- operand
  | update (operator : String) (isPrefix : Bool)      -- operand
  | binary (operator : String)                        -- left, right
  | assign (operator : String)                        -- target, value
  | conditional                                       -- test, yes, no
  | sequence                                          -- expression*
  | paren                                             -- expression
  | await                                             -- expression
  | yield (isDelegate : Bool)                         -- expression?
  | member (isOptional : Bool)                        -- object, word or private name
  | index (isOptional : Bool)                         -- object, expression
  | call (isOptional : Bool)                          -- callee, argument*
  | new (hasArguments : Bool)                         -- callee, argument*
  /-- An expression under an assertion about its type, or with type arguments of its own. -/
  | cast                                              -- expression
  /-- What stands in types, where the names are bound as types. It is only there if a type binds a name
  or holds an expression. -/
  | types (names : List String)                       -- expression, pattern or types*
  -- properties and patterns
  | property                                          -- key, value
  | shorthand                                         -- identifier, default?
  | method (kind : MethodKind)                        -- key, function
  | arrayPattern                                      -- pattern?*
  | objectPattern                                     -- property, shorthand or rest*
  | rest                                              -- pattern
  | defaulted                                         -- pattern, expression
  | parameterProperty                                 -- pattern
  -- members of classes
  | field (modifiers : Modifiers) (isAccessor : Bool) -- key, value?
  | classMethod (modifiers : Modifiers) (kind : MethodKind)  -- key, function
  | constructor                                       -- key, parameters, body?
  | staticBlock                                       -- block
  | emptyMember
  | erasedMember
  -- statements
  | block                                             -- statement*
  | empty
  | expression                                        -- expression
  | variableList (binding : Binding) (isDeclared : Bool) -- declarator*
  | using (isAwait : Bool)                            -- declarator*
  | declarator                                        -- pattern, value?
  | functionDeclaration (isDeclared : Bool)           -- name, function
  | classDeclaration (isDeclared : Bool)              -- name, class body
  | ifElse                                            -- test, yes, no?
  | forLoop                                           -- start?, test?, step?, body
  | forIn                                             -- head, object, body
  | forOf (isAwait : Bool)                            -- head, iterable, body
  | while                                             -- test, body
  | doWhile                                           -- body, test
  | break (label : Option String)
  | continue (label : Option String)
  | return                                            -- expression?
  | throw                                             -- expression
  | try                                               -- block, catch clause?, block?
  | catch                                             -- pattern?, block
  | switch                                            -- subject, case*
  | case                                              -- test?, statement*
  | labeled (label : String)                          -- statement
  | debugger
  -- declarations of types, namespaces and enumerations
  | interface                                         -- name
  | typeAlias                                         -- name
  | enum (isConst isDeclared : Bool)                  -- name, enumerator*
  | enumerator                                        -- key, value?
  | namespace (isDeclared isGlobal : Bool)            -- name, body?
  | namespaceBlock                                    -- item*
  | alias (isExported isTypeOnly : Bool)              -- name, entity or external
  | external                                          -- string
  -- items of modules
  | import (isTypeOnly : Bool)                        -- source, attributes?, specifier*
  | importDefault                                     -- local
  | importNamespace                                   -- local
  | importNamed (isTypeOnly : Bool)                   -- imported?, local
  | exportNames (isTypeOnly : Bool)                   -- source?, attributes?, specifier*
  | exportName (isTypeOnly : Bool)                    -- name, name outside?
  | exportNamespace                                   -- name
  | exportAll (isTypeOnly : Bool)                     -- source, attributes?
  | exportDeclaration                                 -- declaration
  | exportDefault                                     -- expression
  | exportDefaultDeclaration                          -- declaration with or without a name
  | exportAssignment                                  -- expression
  | exportAsNamespace                                 -- name
  deriving DecidableEq, Inhabited, Repr

/-- Whether nodes of a kind are there for types only. -/
def Kind.isTypes : Kind → Bool
  | .types _ => true
  | _ => false

inductive Node where
  | mk (kind : Kind) (offset : Nat) (parts : List Node)

namespace Node

def kind : Node → Kind
  | mk kind _ _ => kind

def offset : Node → Nat
  | mk _ offset _ => offset

def parts : Node → List Node
  | mk _ _ parts => parts

@[match_pattern] def leaf (kind : Kind) : Node := mk kind 0 []

@[match_pattern] def absent : Node := mk .absent 0 []

instance : Inhabited Node := ⟨absent⟩

def isAbsent (n : Node) : Bool := n.kind == .absent

def isTypes (n : Node) : Bool := n.kind.isTypes

/-- A name that the bundler writes itself. -/
def generated (name : String) : Node := leaf (.identifier name .unknown)

def word (text : String) : Node := leaf (.word text)

/-- The name and the mark of an identifier. -/
def symbol? : Node → Option Symbol
  | mk (.identifier name mark) _ _ => some (name, mark)
  | _ => none

/-- The name of an identifier. -/
def name? : Node → Option String
  | mk (.identifier name _) _ _ => some name
  | _ => none

/-- A node with more parts at its end. -/
def extended : Node → List Node → Node
  | mk kind offset parts, more => mk kind offset (parts ++ more)

/-- An expression whose type arguments or asserted type may leave something. -/
def cast (n : Node) (types : List Node) : Node := mk .cast n.offset (n :: types)

/-- An expression without the parentheses around it. -/
def unparenthesised : Node → Node
  | mk .paren _ [inner] => inner.unparenthesised
  | n => n

mutual

/-- What a rule makes of a tree, from the leaves up: the rule sees a node and what was made of each
of its parts. -/
def fold {α : Type} (rule : Kind → Nat → List (Node × α) → α) : Node → α
  | mk kind offset parts => rule kind offset (foldParts rule parts)

def foldParts {α : Type} (rule : Kind → Nat → List (Node × α) → α) : List Node → List (Node × α)
  | [] => []
  | n :: rest => (n, n.fold rule) :: foldParts rule rest

end

end Node

/-- A module: a first line for the system that runs it, and items. -/
structure Module where
  interpreter : Option String
  items : List Node
  deriving Inhabited

end ScriptBundle.Script
