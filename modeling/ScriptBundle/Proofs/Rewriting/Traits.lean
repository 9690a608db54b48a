import ScriptBundle.Proofs.Rewriting.Acceptance
import ScriptBundle.Proofs.Script.ErasedTraits

/-! Traits of the code that linking writes. It has none but those of the names in it, and those of what a
default export is. -/
namespace ScriptBundle.Rewriting

open Script
open Node (Lacks AllLack lacks_neutral)

variable {t : Trait}

/-- The code that linking writes has only traits of names. -/
theorem lacks_written (named : ∀ name mark, Lacks t (.leaf (.identifier name mark))) :
    HoldsWritten (Lacks t) where
  name known := by
    cases known with
    | mk name mark place => exact (named name mark).with id id
  key known := by
    obtain rfl | ⟨text, place⟩ | ⟨value, raw, place⟩ := known <;>
      exact (lacks_neutral rfl).mpr Node.allLack_nil
  soFar := (Node.lacks_access _).mpr (named _ _)
  dispatch identity := Node.lacks_call.mpr ⟨named dispatcher .unknown, by simp⟩
  node written _ _ each := by
    refine (lacks_neutral ?_).mpr each
    unfold isWritten at written
    split at written <;> first | rfl | cases written

theorem lacks_mergeExports (named : ∀ name mark, Lacks t (.leaf (.identifier name mark)))
    {properties : List Node} : Lacks t (mergeExports properties) ↔ AllLack t properties := by
  have soFar : Lacks t exportsSoFar := (lacks_written named).soFar
  have spread : Lacks t (.mk .spread 0 [exportsSoFar]) := (Node.lacks_single rfl).mpr soFar
  simp [mergeExports, spread, soFar]

theorem lacks_default (named : ∀ name mark, Lacks t (.leaf (.identifier name mark))) {value : Node} :
    Lacks t (mergeExports [defaultProperty value]) ↔ Lacks t value := by
  simp [lacks_mergeExports named, defaultProperty]

end ScriptBundle.Rewriting
