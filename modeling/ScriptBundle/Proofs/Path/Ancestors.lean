import Mathlib.Logic.Relation
import ScriptBundle.Proofs.Path.Components

/-! The paths above a path. All that are met on the way up are among its ancestors: the way ends before
the count of steps does. -/
namespace ScriptBundle.Path

/-- Whether a path lies above another one, or is it. -/
def IsAbove (q p : Path) : Prop := Relation.ReflTransGen (fun below above => below.parent? = some above) p q

theorem mem_ancestorsUpTo_iff {p q : Path} {fuel : Nat} (enough : p.body.length < fuel) :
    q ∈ ancestorsUpTo fuel p ↔ q.IsAbove p := by
  induction fuel generalizing p with
  | zero => omega
  | succ fuel ih =>
    unfold ancestorsUpTo IsAbove
    rw [Relation.ReflTransGen.cases_head_iff, List.mem_cons, eq_comm]
    refine or_congr_right ?_
    rcases parent?_cases p with ⟨top, -⟩ | ⟨above, last, parent, -, body⟩
    · simp [top]
    · have shorter : above.body.length < fuel := by
        rw [body, List.length_append, List.length_singleton] at enough
        omega
      simp only [parent, Option.some.injEq, exists_eq_left', ih shorter]
      rfl

theorem mem_ancestors_iff {p q : Path} : q ∈ p.ancestors ↔ q.IsAbove p :=
  mem_ancestorsUpTo_iff (Nat.lt_succ_of_le p.body_length_le)

end ScriptBundle.Path
