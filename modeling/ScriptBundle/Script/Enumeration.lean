import ScriptBundle.Script.Numeral
import ScriptBundle.Script.Usage
import ScriptBundle.Script.Construction

/-! Enumerations: what their members stand for. A member whose value can be computed from constants
and members before it is a constant; all others keep the expression for their value. -/
namespace ScriptBundle.Script

/-- What a member of an enumeration stands for. -/
inductive MemberValue where
  | text (value : String)
  | number (value : Float)
  | computed (value : Node)
  /-- A member without a value that follows one which has no successor. -/
  | missing
  deriving Inhabited

namespace MemberValue

def isConstant : MemberValue → Bool
  | .text _ | .number _ => true
  | .computed _ | .missing => false

/-- The expression for a value. -/
def node : MemberValue → Node
  | .text value => .leaf (.string value none)
  | .number value => .leaf (.number (Numeral.display value))
  | .computed value => value
  | .missing => .mk (.unary "void") 0 [.leaf (.number "0")]

/-- The value that a member has if it follows one with this value and has none of its own. -/
def successor : MemberValue → MemberValue
  | .number value => .number (value + 1)
  | _ => .missing

/-- A constant as part of a text. -/
def shown? : MemberValue → Option String
  | .text value => some value
  | .number value => some (Numeral.display value)
  | _ => none

end MemberValue

/-- The members of enumerations that are known, the latest first. -/
structure Enumerations where
  members : List ((Symbol × String) × MemberValue)
  deriving Inhabited

namespace Enumerations

def find? (known : Enumerations) (enum : Symbol) (member : String) : Option MemberValue :=
  known.members.lookup (enum, member)

def insert (known : Enumerations) (enum : Symbol) (member : String) (value : MemberValue) :
    Enumerations :=
  ⟨((enum, member), value) :: known.members⟩

def constant? (known : Enumerations) (enum : Symbol) (member : String) : Option MemberValue :=
  (known.find? enum member).filter MemberValue.isConstant

end Enumerations

namespace Node

/-- The name that an access to a member spells out. -/
def spelledKey? : Node → Option String
  | mk (.word text) _ _ => some text
  | mk (.string value _) _ _ => some value
  | mk .template _ [mk (.chunk _ cooked) _ _] => cooked
  | _ => none

/-- The object and the name of an access to a member by its name. -/
def namedAccess? : Node → Option (Symbol × String)
  | mk (.member false) _ [object, key] => do return (← object.symbol?, ← key.spelledKey?)
  | mk (.index false) _ [object, key] => do return (← object.symbol?, ← key.spelledKey?)
  | _ => none

/-- The name of a member of an enumeration. -/
def enumeratorName : Node → String
  | mk .enumerator _ (key :: _) => key.spelledKey?.getD ""
  | _ => ""

/-- The identifier with a given identity. -/
def ofSymbol (i : Symbol) : Node := leaf (.identifier i.1 i.2)

end Node

namespace Enumerations

variable (known : Enumerations) (enum : Symbol)

/-- The value of an operator on two values, if it is constant. -/
def combine? (operator : String) (left right : MemberValue) : Option MemberValue :=
  match left, right with
  | .number x, .number y => (Numeral.binary? operator x y).map .number
  | left, right =>
    if operator == "+" then do return .text ((← left.shown?) ++ (← right.shown?)) else none

/-- What an expression stands for in the value of a member. -/
def value : Node → MemberValue
  | .mk (.string text _) _ _ => .text text
  | .mk (.number text) _ _ => .number (Numeral.value text)
  | .mk (.identifier name mark) offset parts =>
    if mark == .unresolved && (name == "NaN" || name == "Infinity") then
      .number (Numeral.value name)
    else
      match known.find? enum name with
      | none => .computed (.mk (.identifier name mark) offset parts)
      | some found =>
        if found.isConstant then found
        else .computed (Node.access (Node.ofSymbol enum) name)
  | .mk .paren _ [inner] => value inner
  | .mk (.unary operator) offset [operand] =>
    if ["+", "-", "~"].contains operator then
      match value operand with
      | .number x => .number ((Numeral.unary? operator x).getD x)
      | found => .computed (.mk (.unary operator) offset [found.node])
    else .computed (.mk (.unary operator) offset [operand])
  | .mk (.binary operator) offset [left, right] =>
    if ["+", "-", "*", "/", "%", "**", "<<", ">>", ">>>", "|", "&", "^"].contains operator then
      let first := value left
      let second := value right
      match combine? operator first second with
      | some found => found
      | none =>
        .computed (.mk (.binary operator) offset
          [if first.isConstant then first.node else left,
            if second.isConstant then second.node else right])
    else .computed (.mk (.binary operator) offset [left, right])
  | .mk .template offset (.mk (.chunk raw cooked) place parts :: more) =>
    let whole := Node.mk .template offset (.mk (.chunk raw cooked) place parts :: more)
    match chunks raw more with
    | some text => .text text
    | none => .computed whole
  | n =>
    match n.namedAccess? with
    | some (object, key) => (known.constant? object key).getD (.computed n)
    | none => .computed n
where
  /-- The text of a template from constants. -/
  chunks (sofar : String) : List Node → Option String
    | [] => some sofar
    | e :: .mk (.chunk raw _) _ _ :: rest => do
      let shown ← (value e).shown?
      chunks (sofar ++ shown ++ raw) rest
    | _ => none

mutual

/-- An expression in which the names of known members stand for the members. -/
def qualified : Node → Node
  | .mk (.identifier name mark) offset parts =>
    if (known.find? enum name).isSome then Node.access (Node.ofSymbol enum) name
    else .mk (.identifier name mark) offset parts
  | .mk (.shorthand) offset parts => .mk .shorthand offset parts
  | .mk kind offset parts => .mk kind offset (allQualified parts)

def allQualified : List Node → List Node
  | [] => []
  | n :: rest => qualified n :: allQualified rest

end

/-- The value of a member that follows one with a given successor. -/
def memberValue (previous : MemberValue) : Node → MemberValue
  | .mk .enumerator _ [_, value] =>
    if value.isAbsent then previous
    else
      match known.value enum value with
      | .computed found => .computed (known.qualified enum found)
      | .missing => previous
      | found => found
  | _ => previous

/-- Adds the members of an enumeration. -/
def insertMembers (enum : Symbol) :
    Enumerations → MemberValue → List Node → Enumerations
  | known, _, [] => known
  | known, previous, member :: rest =>
    let value := known.memberValue enum previous member
    insertMembers enum (known.insert enum member.enumeratorName value) value.successor rest

mutual

/-- Adds the enumerations in a node. -/
def collect (known : Enumerations) : Node → Enumerations
  | .mk (.enum ..) _ (name :: members) =>
    let known := collectAll known members
    match name.symbol? with
    | some enum => insertMembers enum known (.number 0) members
    | none => known
  | .mk _ _ parts => collectAll known parts

def collectAll (known : Enumerations) : List Node → Enumerations
  | [] => known
  | n :: rest => collectAll (collect known n) rest

end

end Enumerations

end ScriptBundle.Script
