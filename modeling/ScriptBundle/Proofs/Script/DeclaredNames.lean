import Mathlib.Data.List.Forall2
import ScriptBundle.Script.Scopes

/-! Which names a node declares depends on the names that its parts declare, so a pass that keeps the
names of the parts keeps those of the node. -/
namespace ScriptBundle.Script.Node

/-- Whether a node is of the kind of another one and declares its names: as a pattern, in its block, as
types there, and in its function. -/
structure Alike (n n' : Node) : Prop where
  kind : n'.kind = n.kind
  bound : n'.boundSymbols = n.boundSymbols
  lexical : n'.lexicalNames = n.lexicalNames
  types : n'.lexicalTypes = n.lexicalTypes
  function : n'.functionNames = n.functionNames
  hoisted : n'.hoistedNames = n.hoistedNames

variable {kind : Kind} {offset : Nat} {parts parts' : List Node}

theorem boundSymbolsOfAll_congr (same : List.Forall₂ Alike parts parts') :
    boundSymbolsOfAll parts' = boundSymbolsOfAll parts := by
  induction same with
  | nil => rfl
  | cons first _ ih => rw [boundSymbolsOfAll, boundSymbolsOfAll, first.bound, ih]

theorem hoistedNamesOfAll_eq (ns : List Node) : hoistedNamesOfAll ns = ns.flatMap hoistedNames := by
  induction ns with
  | nil => rfl
  | cons n rest ih => rw [hoistedNamesOfAll, ih, List.flatMap_cons]

theorem hoistedNamesOfAll_congr (same : List.Forall₂ Alike parts parts') :
    hoistedNamesOfAll parts' = hoistedNamesOfAll parts := by
  induction same with
  | nil => rfl
  | cons first _ ih => rw [hoistedNamesOfAll, hoistedNamesOfAll, first.hoisted, ih]

theorem flatMap_congr_alike {names : Node → List String}
    (alike : ∀ {n n'}, Alike n n' → names n' = names n) (same : List.Forall₂ Alike parts parts') :
    parts'.flatMap names = parts.flatMap names := by
  induction same with
  | nil => rfl
  | cons first _ ih => rw [List.flatMap_cons, List.flatMap_cons, alike first, ih]

theorem lexicalNamesOfAll_congr (same : List.Forall₂ Alike parts parts') :
    parts'.flatMap lexicalNames = parts.flatMap lexicalNames :=
  flatMap_congr_alike Alike.lexical same

theorem lexicalTypesOfAll_congr (same : List.Forall₂ Alike parts parts') :
    parts'.flatMap lexicalTypes = parts.flatMap lexicalTypes :=
  flatMap_congr_alike Alike.types same

/-- A pattern has its names from one of its parts or from all of them. -/
theorem boundSymbols_congr (same : List.Forall₂ Alike parts parts') :
    (mk kind offset parts').boundSymbols = (mk kind offset parts).boundSymbols := by
  have all := boundSymbolsOfAll_congr same
  cases same with
  | nil => rfl
  | cons first rest =>
    cases rest with
    | nil => cases kind <;> first | rfl | exact all | exact first.bound
    | cons second others =>
      cases others with
      | nil => cases kind <;> first | rfl | exact all | exact first.bound | exact second.bound
      | cons => cases kind <;> first | rfl | exact all | exact first.bound

theorem lexicalNames_congr (same : List.Forall₂ Alike parts parts') :
    (mk kind offset parts').lexicalNames = (mk kind offset parts).lexicalNames := by
  have here : (mk kind offset parts').boundNames = (mk kind offset parts).boundNames :=
    congrArg (·.map Prod.fst) (boundSymbols_congr same)
  cases same with
  | nil => cases kind <;> rfl
  | cons first rest =>
    have name := congrArg (·.map Prod.fst) first.bound
    cases rest with
    | nil =>
      cases kind with
      | variableList binding _ => cases binding <;> first | rfl | exact here
      | _ => first | rfl | exact here | exact name | exact first.lexical
    | cons second others =>
      have names := congrArg (·.map Prod.fst) (boundSymbolsOfAll_congr others)
      cases kind with
      | variableList binding _ => cases binding <;> first | rfl | exact here
      | _ => first | rfl | exact here | exact name | exact names

theorem lexicalTypes_congr (same : List.Forall₂ Alike parts parts') :
    (mk kind offset parts').lexicalTypes = (mk kind offset parts).lexicalTypes := by
  cases same with
  | nil => cases kind <;> rfl
  | cons first rest =>
    have name := congrArg (·.map Prod.fst) first.bound
    cases rest with
    | nil => cases kind <;> first | rfl | exact name | exact first.types
    | cons => cases kind <;> first | rfl | exact name

theorem functionNames_congr (same : List.Forall₂ Alike parts parts') :
    (mk kind offset parts').functionNames = (mk kind offset parts).functionNames := by
  cases same with
  | nil => cases kind <;> rfl
  | cons first rest =>
    have name := congrArg (·.map Prod.fst) first.bound
    cases rest with
    | nil => cases kind <;> first | rfl | exact name | exact first.function
    | cons => cases kind <;> first | rfl | exact name

theorem enumeratorNames_congr (same : List.Forall₂ Alike parts parts') :
    (mk kind offset parts').enumeratorNames = (mk kind offset parts).enumeratorNames := by
  cases same with
  | nil => cases kind <;> rfl
  | @cons n n' _ _ first rest =>
    -- A member with a name has it as a word, which is its own kind.
    obtain ⟨word, _, _⟩ := n
    obtain ⟨word', _, _⟩ := n'
    obtain rfl : word' = word := first.kind
    cases kind with
    | enumerator => cases word' <;> rfl
    | _ => rfl

theorem hoistedNames_congr (same : List.Forall₂ Alike parts parts') :
    (mk kind offset parts').hoistedNames = (mk kind offset parts).hoistedNames := by
  have here : (mk kind offset parts').boundNames = (mk kind offset parts).boundNames :=
    congrArg (·.map Prod.fst) (boundSymbols_congr same)
  have all := hoistedNamesOfAll_congr same
  cases same with
  | nil => cases kind <;> rfl
  | cons first rest =>
    have name := congrArg (·.map Prod.fst) first.bound
    cases kind with
    | variableList binding _ => cases binding <;> first | rfl | exact here
    | _ => first | rfl | exact here | exact name | exact all

theorem Alike.mk_congr (same : List.Forall₂ Alike parts parts') :
    Alike (Node.mk kind offset parts) (Node.mk kind offset parts') :=
  ⟨rfl, boundSymbols_congr same, lexicalNames_congr same, lexicalTypes_congr same,
    functionNames_congr same, hoistedNames_congr same⟩

end ScriptBundle.Script.Node
