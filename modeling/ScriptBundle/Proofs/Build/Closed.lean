import ScriptBundle.Proofs.Assembly
import ScriptBundle.Proofs.Build.Reachable

/-! A build that succeeds is closed: whatever module one of its modules calls the dispatcher for, the
build has its text. So the assembler never misses one. -/
namespace ScriptBundle.Build

open Rewriting (InStep dispatchesOfAll)

variable {style : Script.Style} {disk : Disk}

/-- The assembler accepts records that were all visited. -/
theorem assemble_eq_ok {dependencies : Dependencies}
    (visited : ∀ r ∈ dependencies.records, r.isVisited = true) (instantiation : Instantiation)
    (isCompact : Bool) (entrySource : String) :
    ∃ text, assemble instantiation isCompact entrySource dependencies = .ok text := by
  obtain ⟨finished, -⟩ := Assembly.finished_sourced visited
  exact ⟨_, by rw [assemble, finished]; rfl⟩

/-- What was linked has a tree, of which the calls of the dispatcher are those for its references. -/
theorem linkedModule_of_link {identity : Identity} {text : String} {outcome : Rewriting.Outcome}
    (linked : (link style disk identity).alone = .ok (text, outcome)) :
    ∃ m, linkedModule disk identity = .ok (m, outcome) ∧ text = m.plain.print style ∧
      ∀ arguments, arguments ∈ dispatchesOfAll m.items ↔
        ∃ target ∈ references style disk identity, arguments = [Script.Node.text target.text] := by
  rw [references_eq linked]
  obtain ⟨m, tree, printed⟩ := exists_linkedModule linked
  obtain ⟨new, ⟨-, dependencies⟩, calls⟩ := linkedModule_dispatches tree
  refine ⟨m, tree, printed, fun arguments => ?_⟩
  rw [calls arguments]
  simp [dependencies]

/-- The entry of a build and its records. -/
def modules (build : Build) : List Record :=
  ⟨build.entry, some build.entrySource⟩ :: build.dependencies.records

/-- Every module of a build calls the dispatcher for modules of which the build has records, and for
every record there is such a call; calls that were read do not count. So the build can be
assembled. -/
theorem ofEntry_closed {entry : Path} {log : Log} {build : Build}
    (built : ((ofEntry style disk entry).runFrom { log }).1 = .ok build) :
    (∀ m : Script.Module, dispatchesOfAll m.resolved.items = []) ∧
    (∀ record ∈ build.dependencies.records, record.isVisited = true) ∧
    (∀ record ∈ build.modules, ∃ m outcome, linkedModule disk record.identity = .ok (m, outcome) ∧
      record.source = some (m.plain.print style) ∧
      ∀ arguments ∈ dispatchesOfAll m.items, ∃ target ∈ build.dependencies.identities,
        arguments = [Script.Node.text target.text]) ∧
    (∀ target ∈ build.dependencies.identities, ∃ record ∈ build.modules, ∃ m outcome,
      linkedModule disk record.identity = .ok (m, outcome) ∧
      [Script.Node.text target.text] ∈ dispatchesOfAll m.items) ∧
    ∀ instantiation isCompact, ∃ text,
      assemble instantiation isCompact build.entrySource build.dependencies = .ok text := by
  obtain ⟨-, ⟨outcome, entryLinked⟩, last, reached, nothing, dependencies, -⟩ := ofEntry_built built
  have surveyed := reached.surveyed
  rw [nothing] at surveyed
  have identities : build.dependencies.identities = build.generations.flatten ++ [] := by
    rw [dependencies, surveyed.identities]
  have linked : ∀ record ∈ build.modules, record.identity ∈ build.entry :: build.generations.flatten ∧
      ∃ text outcome, (link style disk record.identity).alone = .ok (text, outcome) ∧
        record.source = some text := by
    intro record member
    rcases List.mem_cons.mp member with rfl | member
    · exact ⟨.head _, _, outcome, entryLinked, rfl⟩
    · rw [dependencies] at member
      obtain ⟨known, source⟩ := surveyed.source_eq member
      exact ⟨.tail _ known, source⟩
  have visited : ∀ record ∈ build.dependencies.records, record.isVisited = true := by
    intro record member
    obtain ⟨-, text, -, -, source⟩ := linked record (.tail _ member)
    simp [Record.isVisited, source]
  refine ⟨fun m => Rewriting.dispatches_marked.2 _ m.allMarked_resolved, visited, ?_, ?_,
    fun instantiation isCompact => assemble_eq_ok visited instantiation isCompact _⟩
  · intro record member
    obtain ⟨known, text, outcome, alone, source⟩ := linked record member
    obtain ⟨m, tree, rfl, calls⟩ := linkedModule_of_link alone
    refine ⟨m, outcome, tree, source, fun arguments written => ?_⟩
    obtain ⟨target, refers, equal⟩ := (calls arguments).mp written
    rw [identities]
    exact ⟨target, surveyed.mem_iff.mpr ⟨_, known, refers⟩, equal⟩
  · intro target member
    rw [identities] at member
    obtain ⟨source, known, refers⟩ := surveyed.mem_iff.mp member
    obtain ⟨record, inside, rfl⟩ : ∃ record ∈ build.modules, record.identity = source := by
      rcases List.mem_cons.mp known with rfl | known
      · exact ⟨_, .head _, rfl⟩
      · rw [← List.append_nil build.generations.flatten, ← identities] at known
        obtain ⟨record, inside, same⟩ := List.mem_map.mp known
        exact ⟨record, .tail _ inside, same⟩
    obtain ⟨-, text, outcome, alone, -⟩ := linked record inside
    obtain ⟨m, tree, -, calls⟩ := linkedModule_of_link alone
    exact ⟨record, inside, m, outcome, tree, (calls _).mpr ⟨target, refers, rfl⟩⟩

theorem ofEntry_closed_mirror : ∃ build,
    ((ofEntry ⟨.es2020, true⟩ mirror ⟨"m.ts"⟩).runFrom {}).1 = .ok build ∧
    (∃ record ∈ build.modules, ∃ m outcome, linkedModule mirror record.identity = .ok (m, outcome) ∧
      [Script.Node.text "/a.ts"] ∈ dispatchesOfAll m.items) ∧
    ∃ text, assemble .cached true build.entrySource build.dependencies = .ok text := by
  obtain ⟨build, built, -, identities, -⟩ := mirror_built
  obtain ⟨-, -, -, called, assembled⟩ := ofEntry_closed built
  exact ⟨build, built, called ⟨"/a.ts"⟩ (by simp [identities]), assembled .cached true⟩

end ScriptBundle.Build
