import ScriptBundle.Script.Grammar.Items

/-! Reading a module. The readers of the grammar ask each other through a bounded number of steps,
which is more than the source has characters to spend them on. -/
namespace ScriptBundle.Script

/-- What reads each goal in at most a number of steps. -/
def Goal.read : Nat → Reader
  | 0, _ => P.failHere .expectedExpression
  | fuel + 1, goal =>
    let parse := Goal.read fuel
    match goal with
    | .assignment => P.assignment parse
    | .unary => P.unary parse
    | .leftHandSide => P.leftHandSide parse
    | .member => P.memberOrNew parse
    | .operators left floor => P.operators parse left floor
    | .subscripts object forbidsCall forbidsIndex =>
      P.subscripts parse object forbidsCall forbidsIndex
    | .asPattern role expression => P.asPattern parse role expression
    | .bindingTarget => P.bindingTarget parse
    | .type => P.anyType parse
    | .plainType => P.plainType parse
    | .typeOperator => P.typeOperator parse
    | .statement allowsDeclaration => P.statement parse allowsDeclaration
    | .moduleItem => P.moduleItem parse

/-- The items up to the end of the source. -/
def P.items (parse : Reader) : P (List Node) := do
  let mut found := #[]
  for _ in [0 : ← bound] do
    if ← atEnd then break
    found := found.push (← parse .moduleItem)
  return found.toList

namespace State

def start (source : List Char) : State where
  cursor := ⟨source, 0, []⟩
  current := none
  previousStart := 0
  previousStop := 0
  isFirst := true
  context := .top
  complaints := []
  isSilent := false
  labels := []
  arrowStart := none
  trailingCommas := []
  typeNames := []
  typeExpressions := []
  bound := source.length + 2

end State

/-- The first line of a source, if it is for the system that runs it, and what follows it. -/
def interpreterLine : List Char → Option String × List Char × Nat
  | '#' :: '!' :: rest =>
    let line := rest.takeWhile (!isLineEnd ·)
    (some (String.ofList line), rest.drop line.length, line.length + 2)
  | source => (none, source, 0)

/-- Reads a module, or says what is first wrong with it. A mark of the byte order before it does not
count. -/
def Module.ofSource (source : String) : Except Complaint Module :=
  let characters := source.toList
  let (mark, characters) := match characters with
    | '\ufeff' :: rest => (1, rest)
    | all => (0, all)
  let (interpreter, rest, skipped) := interpreterLine characters
  let begin_ := State.start rest
  let begin_ := { begin_ with cursor := { begin_.cursor with offset := skipped } }
  let fuel := 16 * (rest.length + 16)
  let inSource (complaint : Complaint) : Complaint :=
    { complaint with offset := complaint.offset + mark }
  match (P.items (Goal.read fuel)).run begin_ with
  | (.error complaint, _) => .error (inSource complaint)
  | (.ok items, after) =>
    match after.complaints.getLast? with
    | some complaint => .error (inSource complaint)
    | none => .ok ⟨interpreter, items⟩

end ScriptBundle.Script
