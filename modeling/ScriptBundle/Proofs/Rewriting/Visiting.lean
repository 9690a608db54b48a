import ScriptBundle.Proofs.Build.Discovery
import ScriptBundle.Proofs.Build.Linked
import ScriptBundle.Proofs.Rewriting.Lowered

/-! The calls of `require` in the order in which a visit leaves them. Whether a call is redirected is
decided when its parts are done, but the parts do not decide it: it could be read off the module as it
was. So redirecting is one pass over the tree from the top, and one run over the nodes in the order of
the visit that asks for the modules and counts what is worth a warning. -/
namespace ScriptBundle.Rewriting

open Script

/-- The specifier of a call of the global `require` with one string as its argument. -/
def specifier? (n : Node) : Option String := (requireArguments? n).bind soleSpecifier?

/-- The number of arguments of a call of the global `require`, where it is not one. -/
def miscount? (n : Node) : Option Nat :=
  (requireArguments? n).bind fun arguments =>
    if arguments.length = 1 then none else some arguments.length

/-- What belongs to the parts of a node, in the order in which the parts are visited. -/
def inVisitOrder {α : Type} : Kind → List α → List α
  | .doWhile, [body, test] => [test, body]
  | .classBody, base :: members => members ++ [base]
  | _, parts => parts

mutual

/-- The nodes of a tree in the order in which a visit leaves them, a node after its parts. -/
def visited : Node → List Node
  | .mk kind offset parts =>
    (inVisitOrder kind (visitedEach parts)).flatten ++ [.mk kind offset parts]

def visitedEach : List Node → List (List Node)
  | [] => []
  | n :: rest => visited n :: visitedEach rest

end

def visitedAll (ns : List Node) : List Node := (visitedEach ns).flatten

mutual

/-- A tree with every call that has a specifier replaced by a call of the dispatcher, which keeps the
types of the call. -/
def replaced (target : String → Identity) : Node → Node
  | .mk kind offset parts =>
    match specifier? (.mk kind offset parts) with
    | some specifier =>
      dispatchWith ((replacedAll target parts).filter (·.isTypes)) (target specifier)
    | none => .mk kind offset (replacedAll target parts)

def replacedAll (target : String → Identity) : List Node → List Node
  | [] => []
  | n :: rest => replaced target n :: replacedAll target rest

end

section redirecting

variable {target : String → Identity}

theorem requireArguments?_leaf (kind : Kind) (offset : Nat) :
    requireArguments? (.mk kind offset []) = none := by
  unfold requireArguments?
  split
  next heq => cases heq
  next => rfl

theorem redirectedAll_eq_nil {ns : List Node} : redirectedAll target ns = [] ↔ ns = [] := by
  rw [redirectedAll_eq, List.map_eq_nil_iff]

/-- Only a node that has no parts becomes one that has none, and it stays what it is. -/
theorem redirected_eq_leaf {n : Node} {kind : Kind} {offset : Nat} :
    redirected target n = .mk kind offset [] ↔ n = .mk kind offset [] := by
  obtain ⟨kind', offset', parts⟩ := n
  constructor
  · intro leaf
    rw [redirected] at leaf
    obtain kept | ⟨-, identity, dispatched⟩ :=
      redirectedCall_eq target (.mk kind' offset' (redirectedAll target parts))
    · rw [kept] at leaf
      injection leaf with same same' none
      rw [same, same', redirectedAll_eq_nil.mp none]
    · rw [dispatched] at leaf
      cases leaf
  · rintro ⟨⟩
    rw [redirected, redirectedAll, redirectedCall, requireArguments?_leaf]
    rfl

/-- Whether a node calls the global `require` does not depend on what its arguments become. -/
theorem requireArguments?_redirected (kind : Kind) (offset : Nat) (parts : List Node) :
    requireArguments? (.mk kind offset (redirectedAll target parts)) =
      (requireArguments? (.mk kind offset parts)).map (redirectedAll target) := by
  cases parts with
  | nil => rw [redirectedAll, requireArguments?_leaf, Option.map_none]
  | cons callee arguments =>
    by_cases global : kind = .call false ∧ ∃ place, callee =
        .mk (.identifier "require" .unresolved) place []
    · obtain ⟨rfl, place, rfl⟩ := global
      rw [redirectedAll, redirected_eq_leaf.mpr rfl]
      exact congrArg some (filter_redirectedAll (!·) arguments)
    · have other (callee' : Node) (arguments' : List Node)
          (same : ∀ place, callee' = .mk (.identifier "require" .unresolved) place [] →
            callee = .mk (.identifier "require" .unresolved) place []) :
          requireArguments? (.mk kind offset (callee' :: arguments')) = none := by
        unfold requireArguments?
        split
        next heq =>
          cases heq
          exact (global ⟨rfl, _, same _ rfl⟩).elim
        next => rfl
      rw [redirectedAll, other _ _ fun place => redirected_eq_leaf.mp, other _ _ fun place => id]
      rfl

theorem soleSpecifier?_redirected (arguments : List Node) :
    soleSpecifier? (redirectedAll target arguments) = soleSpecifier? arguments := by
  match arguments with
  | [] => rfl
  | [argument] =>
    by_cases string : ∃ specifier raw place, argument = .mk (.string specifier raw) place []
    · obtain ⟨specifier, raw, place, rfl⟩ := string
      rw [redirectedAll, redirected_eq_leaf.mpr rfl]
      rfl
    · have other (argument' : Node) (same : ∀ specifier raw place,
          argument' = .mk (.string specifier raw) place [] →
            argument = .mk (.string specifier raw) place []) :
          soleSpecifier? [argument'] = none := by
        unfold soleSpecifier?
        split
        next heq =>
          cases heq
          exact (string ⟨_, _, _, same _ _ _ rfl⟩).elim
        next => rfl
      rw [redirectedAll, redirectedAll, other _ fun _ _ _ => redirected_eq_leaf.mp,
        other _ fun _ _ _ => id]
  | first :: second :: rest =>
    have several (first second : Node) (rest : List Node) :
        soleSpecifier? (first :: second :: rest) = none := by
      unfold soleSpecifier?
      split
      next heq => cases heq
      next => rfl
    rw [redirectedAll, redirectedAll, several, several]

/-- What a call asks for can be told before its parts are done. -/
theorem specifier?_redirected (kind : Kind) (offset : Nat) (parts : List Node) :
    specifier? (.mk kind offset (redirectedAll target parts)) =
      specifier? (.mk kind offset parts) := by
  rw [specifier?, specifier?, requireArguments?_redirected]
  cases requireArguments? (.mk kind offset parts) with
  | none => rfl
  | some arguments => exact soleSpecifier?_redirected arguments

theorem miscount?_redirected (kind : Kind) (offset : Nat) (parts : List Node) :
    miscount? (.mk kind offset (redirectedAll target parts)) =
      miscount? (.mk kind offset parts) := by
  rw [miscount?, miscount?, requireArguments?_redirected]
  cases requireArguments? (.mk kind offset parts) with
  | none => rfl
  | some arguments => simp [redirectedAll_eq]

/-- Redirecting from the leaves up replaces the calls that can be seen from the top. -/
theorem redirected_eq_replaced : (∀ n, redirected target n = replaced target n) ∧
    ∀ ns, redirectedAll target ns = replacedAll target ns := by
  apply redirected.mutual_induct
  case case1 =>
    intro kind offset parts ih
    cases asked : specifier? (.mk kind offset parts) <;>
      rw [redirected, redirectedCall, ← specifier?, specifier?_redirected, ih, replaced, asked]
    all_goals rfl
  case case2 => rfl
  case case3 =>
    intro n rest ihFirst ihRest
    rw [redirectedAll, replacedAll, ihFirst, ihRest]

end redirecting

theorem soleSpecifier?_eq_none {arguments : List Node} (several : arguments.length ≠ 1) :
    soleSpecifier? arguments = none := by
  unfold soleSpecifier?
  split
  · exact absurd rfl several
  · rfl

/-- A call with a specifier has one argument. -/
theorem miscount?_eq_none {n : Node} {specifier : String} (asks : specifier? n = some specifier) :
    miscount? n = none := by
  obtain ⟨arguments, called, sole⟩ := Option.bind_eq_some_iff.mp asks
  have one : arguments.length = 1 := by
    by_contra several
    rw [soleSpecifier?_eq_none several] at sole
    cases sole
  rw [miscount?, called, Option.bind_some, if_pos one]

theorem inVisitOrder_eq {kind : Kind} {parts : List Node}
    (noLoop : ∀ body test, kind = .doWhile → parts = [body, test] → False)
    (noClass : ∀ base members, kind = .classBody → parts = base :: members → False) :
    inVisitOrder kind (visitedEach parts) = visitedEach parts := by
  unfold inVisitOrder
  split
  next heq =>
    match parts, heq with
    | [body, test], _ => exact (noLoop body test rfl rfl).elim
  next heq =>
    match parts, heq with
    | base :: members, _ => exact (noClass base members rfl rfl).elim
  next => rfl

end ScriptBundle.Rewriting
