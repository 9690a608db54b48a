import ScriptBundle.Proofs.Build.Visits
import ScriptBundle.Proofs.Rewriting.Linking

/-! What linking a module alone gives: a tree whose calls of the dispatcher are for the modules that it
refers to, and these modules are files. -/
namespace ScriptBundle.Build

open Rewriting (Outcome InStep dispatchesOfAll)

variable {style : Script.Style} {disk : Disk}

theorem bind_eq_ok {ε α β : Type} {x : Except ε α} {f : α → Except ε β} {b : β} :
    (x >>= f) = .ok b ↔ ∃ a, x = .ok a ∧ f a = .ok b := by
  cases x <;> simp [bind, Except.bind]

/-- The linked tree of the module in a file, and what was found in it, when nothing was found before. -/
def linkedModule (disk : Disk) (identity : Identity) :
    Except BundleError (Script.Module × Outcome) := do
  let source ← (disk.readText identity).mapError (.io identity)
  let m ← parseModule identity source
  ((Rewriting.link disk identity m.resolved).run {}).alone

/-- The text of a module is its linked tree as it is printed. -/
theorem link_alone (style : Script.Style) (disk : Disk) (identity : Identity) :
    (link style disk identity).alone = (linkedModule disk identity).map fun linked =>
      (linked.1.plain.print style, linked.2) := by
  unfold link linkedModule
  cases disk.readText identity with
  | error cause => rfl
  | ok source =>
    exact rewriteSource_alone style disk identity source

/-- What was linked has a tree, which is printed. -/
theorem exists_linkedModule {identity : Identity} {text : String} {outcome : Outcome}
    (linked : (link style disk identity).alone = .ok (text, outcome)) :
    ∃ m, linkedModule disk identity = .ok (m, outcome) ∧ text = m.plain.print style := by
  rw [link_alone] at linked
  cases tree : linkedModule disk identity with
  | error e =>
    rw [tree] at linked
    cases linked
  | ok found =>
    rw [tree] at linked
    cases linked
    exact ⟨found.1, rfl, rfl⟩

/-- The calls of the dispatcher in a linked module are those for the modules that it refers to. -/
theorem linkedModule_dispatches {identity : Identity} {m : Script.Module} {outcome : Outcome}
    (linked : linkedModule disk identity = .ok (m, outcome)) :
    InStep disk {} outcome [] (dispatchesOfAll m.items) := by
  unfold linkedModule at linked
  obtain ⟨source, -, linked⟩ := bind_eq_ok.mp linked
  obtain ⟨parsed, -, linked⟩ := bind_eq_ok.mp linked
  exact (Rewriting.link_ensures identity parsed).result {} m outcome linked

/-- The modules that a module refers to, in the order of the first reference, if it can be linked. -/
def references (style : Script.Style) (disk : Disk) (identity : Identity) : List Identity :=
  match (link style disk identity).alone with
  | .ok (_, outcome) => outcome.dependencies
  | .error _ => []

/-- What is worth a warning in a module, if it can be linked. -/
def warningsOf (style : Script.Style) (disk : Disk) (identity : Identity) : List BundleWarning :=
  match (link style disk identity).alone with
  | .ok (_, outcome) => outcome.warnings
  | .error _ => []

theorem references_eq {identity : Identity} {text : String} {outcome : Outcome}
    (linked : (link style disk identity).alone = .ok (text, outcome)) :
    references style disk identity = outcome.dependencies := by
  rw [references, linked]

theorem warningsOf_eq {identity : Identity} {text : String} {outcome : Outcome}
    (linked : (link style disk identity).alone = .ok (text, outcome)) :
    warningsOf style disk identity = outcome.warnings := by
  rw [warningsOf, linked]

/-- A module refers to files only. -/
theorem hasFile_of_mem_references {identity target : Identity}
    (member : target ∈ references style disk identity) : disk.HasFile target := by
  unfold references at member
  split at member
  next text outcome linked =>
    obtain ⟨m, tree, -⟩ := exists_linkedModule linked
    obtain ⟨new, ⟨files, dependencies⟩, -⟩ := linkedModule_dispatches tree
    obtain none | new := (dependencies target).mp member
    · cases none
    · exact files target new
  next => cases member

end ScriptBundle.Build
