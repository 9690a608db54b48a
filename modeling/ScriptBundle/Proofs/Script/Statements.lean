import ScriptBundle.Proofs.Script.Reading

/-! Where imports, lists of exports and exports of a default do not come from. A statement or a
declaration that is read is none of these, and neither is any other export: only what begins with the
word can be one. What is exported by itself is one part, and no expression stands for a statement. -/
namespace ScriptBundle.Script

def Node.isImport : Node → Bool
  | mk (.import _) _ _ => true
  | _ => false

/-- Whether a node has the shape of an item that is neither an import, nor a list of exports, nor an
export of a default. -/
def Node.isOther : Node → Bool
  | mk .exportDeclaration _ [_] => true
  | mk kind _ _ =>
    match kind with
    | .import _ | .exportDefault | .exportDefaultDeclaration | .exportDeclaration | .exportNames _
    | .cast => false
    | _ => true

namespace P

/-- Whether a reader gives items other than imports, lists of exports and exports of a default. -/
abbrev GivesOther (p : P Node) : Prop := Yields (·.isOther) p

abbrev GivesOther? (p : P (Option Node)) : Prop := Yields (·.all Node.isOther) p

variable (parse : Reader) (start : Nat) (isDeclared : Bool)

theorem givesOther_jump (isBreak : Bool) : GivesOther (jump isBreak) := by
  unfold jump
  repeat' first
    | with_reducible refine .next fun _ => ?_
    | with_reducible exact .pure rfl
    | split

theorem givesOther_statement : GivesOther (block parse) ∧ GivesOther (doWhileLoop parse) ∧
    GivesOther (whileLoop parse) ∧ GivesOther (ifStatement parse) ∧
    GivesOther (returnStatement parse) ∧ GivesOther (throwStatement parse) ∧
    GivesOther (switchStatement parse) ∧ GivesOther (tryStatement parse) ∧
    GivesOther (strayHandler parse) ∧ GivesOther (awaitRest parse start) ∧
    (∀ label, GivesOther (labeled parse start label)) := by
  refine ⟨?_, ?_, ?_, ?_, ?_, ?_, ?_, ?_, ?_, ?_, fun label => .within ?_⟩
  all_goals first
    | unfold block | unfold doWhileLoop | unfold whileLoop | unfold ifStatement
    | unfold returnStatement | unfold throwStatement | unfold switchStatement
    | unfold tryStatement | unfold strayHandler | unfold awaitRest | skip
  all_goals repeat' first
    | with_reducible refine .next fun _ => ?_
    | with_reducible exact .pure rfl
    | with_reducible exact .failHere _
    | split

theorem givesOther_declaration :
    (∀ isAsync, GivesOther (functionDeclaration parse start isAsync isDeclared)) ∧
    (∀ isAbstract, GivesOther (classDeclaration parse start isAbstract isDeclared)) ∧
    (∀ isConst, GivesOther (enumeration parse start isConst isDeclared)) ∧
    GivesOther (variableList parse isDeclared) ∧ GivesOther (interfaceDeclaration parse start) ∧
    GivesOther (typeAlias parse start) ∧ GivesOther (namespaceDeclaration parse start isDeclared) ∧
    GivesOther (ambientModule parse start isDeclared) ∧
    (∀ isAwait, GivesOther? (usingDeclaration? parse start isAwait)) := by
  refine ⟨fun _ => ?_, fun _ => ?_, fun _ => ?_, ?_, ?_, ?_, ?_, ?_, fun _ => ?_⟩
  all_goals first
    | unfold functionDeclaration | unfold classDeclaration | unfold enumeration
    | unfold variableList | unfold interfaceDeclaration | unfold typeAlias
    | unfold namespaceDeclaration | unfold ambientModule | unfold usingDeclaration?
  all_goals repeat' first
    | with_reducible refine .next fun _ => ?_
    | with_reducible exact .pure rfl
    | with_reducible exact .failHere _
    | split

theorem givesOther_forLoop : GivesOther (forLoop parse) := by
  have head (isAwait : Bool) : Yields (fun found => (Node.mk found.1 0 []).isOther)
      (forHead parse isAwait) := by
    unfold forHead eachHead plainHead
    repeat' first
      | with_reducible refine .next fun _ => ?_
      | with_reducible exact .pure rfl
      | split
  unfold forLoop
  refine .next fun _ => .next fun _ => .next fun _ => .next fun _ => .next fun _ => ?_
  refine .bind (.within (head _)) fun (kind, parts) other => .next fun _ => .next fun _ => ?_
  have made (place : Nat) (parts : List Node) :
      GivesOther (pure (.mk kind place parts)) := .pure (by cases kind <;> first | rfl | cases other)
  split
  · exact .next fun _ => made _ _
  · exact made _ _

/-- A form that is found is another item if its reader gives other items. -/
theorem givesOther?_some {p : P Node} (inside : GivesOther p) :
    GivesOther? (do return some (← p)) := .bind inside fun _ other => .pure other

theorem givesOther?_wordDeclaration (text : String) (isNext : Bool) :
    GivesOther? (wordDeclaration? parse start text isNext isDeclared) := by
  obtain ⟨functions, classes, enums, vars, interfaces, aliases, namespaces, ambients, -⟩ :=
    givesOther_declaration parse start isDeclared
  unfold wordDeclaration?
  repeat' first
    | with_reducible refine givesOther?_some ?_
    | with_reducible refine .next fun _ => ?_
    | with_reducible exact .pure rfl
    | split
  all_goals first
    | with_reducible exact classes _
    | with_reducible exact enums _
    | with_reducible exact interfaces
    | with_reducible exact aliases
    | with_reducible exact namespaces
    | with_reducible exact ambients

theorem givesOther?_ambientDeclaration : GivesOther? (ambientDeclaration? parse start) := by
  obtain ⟨functions, classes, enums, vars, interfaces, aliases, namespaces, ambients, -⟩ :=
    givesOther_declaration parse start true
  unfold ambientDeclaration?
  repeat' first
    | with_reducible refine givesOther?_some ?_
    | with_reducible refine .next fun _ => ?_
    | with_reducible exact .pure rfl
    | with_reducible refine .within ?_
    | split
  all_goals first
    | with_reducible exact functions _
    | with_reducible exact classes _
    | with_reducible exact enums _
    | with_reducible exact vars
    | with_reducible exact ambients
    | with_reducible exact givesOther?_wordDeclaration parse start true _ _

theorem givesOther?_declarationAfter (text : String) :
    GivesOther? (declarationAfter? parse start text) := by
  unfold declarationAfter?
  split
  · exact givesOther?_ambientDeclaration parse start
  · refine .next fun _ => ?_
    split
    · exact .next fun _ => .pure rfl
    · exact .pure rfl
  · exact givesOther?_wordDeclaration parse start false _ _

theorem givesOther_awaitStatement : GivesOther (awaitStatement parse) := by
  unfold awaitStatement
  refine .next fun start => .next fun _ => .next fun isUsing => ?_
  split
  · refine .bind (p := usingDeclaration? parse start true)
      ((givesOther_declaration parse start true).2.2.2.2.2.2.2.2 true) fun found other => ?_
    split
    · exact .pure other
    · repeat' first
        | with_reducible refine .next fun _ => ?_
        | with_reducible exact .pure rfl
  · repeat' first
      | with_reducible refine .next fun _ => ?_
      | with_reducible exact .pure rfl

theorem givesOther_expressionStatement : GivesOther (expressionStatement parse) := by
  have labels (start : Nat) : ∀ label, GivesOther (labeled parse start label) :=
    (givesOther_statement parse start).2.2.2.2.2.2.2.2.2.2
  unfold expressionStatement
  repeat' first
    | with_reducible exact labels _ _
    | with_reducible refine .bind (givesOther?_declarationAfter _ _ _) fun _ other => ?_
    | with_reducible refine .next fun _ => ?_
    | with_reducible exact .pure rfl
    | with_reducible exact .failHere _
    | split
  case h_1 declaration other => exact .pure other

theorem givesOther?_keywordStatement (allowsDeclaration allowsAwait : Bool) (text : String) :
    GivesOther? (keywordStatement? parse allowsDeclaration allowsAwait start text) := by
  obtain ⟨functions, classes, enums, vars, interfaces, aliases, namespaces, ambients, resources⟩ :=
    givesOther_declaration parse start false
  obtain ⟨-, doWhiles, whiles, ifs, returns, throws, switches, tries, handlers, -, -⟩ :=
    givesOther_statement parse start
  unfold keywordStatement?
  repeat' first
    | with_reducible refine givesOther?_some ?_
    | with_reducible refine .next fun _ => ?_
    | with_reducible exact .pure rfl
    | split
  all_goals first
    | with_reducible exact functions _
    | with_reducible exact classes _
    | with_reducible exact enums _
    | with_reducible exact vars
    | with_reducible exact interfaces
    | with_reducible exact aliases
    | with_reducible exact resources _
    | with_reducible assumption
    | with_reducible exact givesOther_jump _
    | with_reducible exact givesOther_forLoop _
    | with_reducible exact givesOther_awaitStatement _

theorem givesOther_plainStatement (allowsDeclaration allowsAwait : Bool) :
    GivesOther (plainStatement parse allowsDeclaration allowsAwait) := by
  unfold plainStatement
  refine .within (.next fun start => .next fun token => ?_)
  split
  · exact .within (givesOther_statement parse start).1
  · exact .next fun _ => .pure rfl
  · refine .bind (givesOther?_keywordStatement parse start _ _ _) fun found other => ?_
    split
    · exact .pure other
    · exact givesOther_expressionStatement parse
  · exact givesOther_expressionStatement parse

theorem givesOther_aliasRest (name : Node) (isExported isTypeOnly : Bool) :
    GivesOther (aliasRest start name isExported isTypeOnly) := by
  unfold aliasRest
  repeat' first
    | with_reducible refine .next fun _ => ?_
    | with_reducible exact .pure rfl
    | split

theorem givesOther?_typedExport : GivesOther? (typedExport? parse start) := by
  unfold typedExport?
  repeat' first
    | with_reducible refine givesOther?_some ?_
    | with_reducible refine .next fun _ => ?_
    | with_reducible exact .pure rfl
    | with_reducible exact givesOther_aliasRest _ _ _ _
    | split
    | dsimp only

end P

end ScriptBundle.Script
