import ScriptBundle.Proofs.Script.Resolving

/-! Every identifier of a module whose names were looked up is marked. So an identifier without a mark
was not read but written by the bundler. -/
namespace ScriptBundle.Script

def Kind.isMarked : Kind → Bool
  | .identifier _ .unknown => false
  | _ => true

namespace Node

mutual

/-- Whether every identifier of a tree is marked. -/
def isMarked : Node → Bool
  | mk kind _ parts => kind.isMarked && allMarked parts

def allMarked : List Node → Bool
  | [] => true
  | n :: rest => n.isMarked && allMarked rest

end

theorem isMarked_kind {n : Node} (marked : n.isMarked = true) : n.kind.isMarked = true := by
  obtain ⟨kind, offset, parts⟩ := n
  simp only [isMarked, Bool.and_eq_true] at marked
  exact marked.1

end Node

namespace Scopes

theorem isMarked_mark (scopes : Scopes) (name : String) :
    (Kind.identifier name (scopes.mark name)).isMarked = true := by
  unfold Scopes.mark
  split <;> rfl

end Scopes

namespace Node

open Scopes

/-- Looking names up marks every identifier, in whatever scopes. -/
theorem resolve_isMarked :
    (∀ scopes n, Gives (isMarked · = true) (resolve scopes n)) ∧
    ∀ scopes ns, Gives (allMarked · = true) (resolveAll scopes ns) := by
  refine resolve_gives (R := fun _ n => n.isMarked = true) (Q := fun _ ns => allMarked ns = true)
    ⟨?_, ?_, rfl, ?_⟩
  · intro _ scopes _ _ name mark offset types firsts _ each
    simp [isMarked, isMarked_mark, each]
  · intro _ kind other offset parts firsts _ each
    have marked : kind.isMarked = true := by
      cases kind <;> first | rfl | cases other
    simp [isMarked, marked, each]
  · intro _ n first _ rest firsts _ head tail
    simp [allMarked, head, tail]

end Node

/-- A module whose names were looked up has no identifier without a mark. -/
theorem Module.allMarked_resolved (m : Module) : Node.allMarked m.resolved.items = true := by
  have marks : Scopes.Gives (Node.allMarked · = true) (do
      let scopes ← Scopes.outermost.enterBody m.items
      Node.resolveAll scopes m.items) :=
    .bind (.any _) fun scopes _ => Node.resolve_isMarked.2 scopes m.items
  exact marks 0

end ScriptBundle.Script
