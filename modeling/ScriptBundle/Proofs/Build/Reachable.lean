import ScriptBundle.Proofs.Build.Runs

/-! What a build that succeeds consists of: the modules that are reached from the entry, in the order
of their discovery, each with what linking it alone gives. -/
namespace ScriptBundle.Build

variable {style : Script.Style} {disk : Disk}

/-- When no module waits, every module that is reached from the entry was visited. -/
theorem Surveyed.mem_of_reachable {entry m : Identity} {visited : List Identity} {survey : Survey}
    (surveyed : Surveyed style disk entry visited [] survey)
    (reachable : Relation.TransGen (Refers style disk) entry m) : m ∈ visited := by
  have closed {source target : Identity} (known : source ∈ entry :: visited)
      (refers : Refers style disk source target) : target ∈ visited := by
    rw [← List.append_nil visited]
    exact surveyed.mem_iff.mpr ⟨source, known, refers⟩
  induction reachable with
  | single refers => exact closed (.head _) refers
  | tail _ refers ih => exact closed (.tail _ ih) refers

/-- The records of a build are the modules that are reached from the entry by one or more references,
first come first served, and each text and each warning is that of a module which is linked alone. -/
theorem ofEntry_reachable {entry : Path} {log : Log} {build : Build}
    (built : ((ofEntry style disk entry).runFrom { log }).1 = .ok build) :
    disk.canonicalize entry = .ok build.entry ∧
    build.dependencies.identities.Nodup ∧
    (∀ m, m ∈ build.dependencies.identities ↔
      Relation.TransGen (Refers style disk) build.entry m) ∧
    build.dependencies.identities = (references style disk build.entry ++
      build.dependencies.identities.flatMap (references style disk)).eraseDups ∧
    (∃ outcome, (link style disk build.entry).alone = .ok (build.entrySource, outcome)) ∧
    (∀ record ∈ build.dependencies.records, ∃ text outcome,
      (link style disk record.identity).alone = .ok (text, outcome) ∧ record.source = some text) ∧
    build.warnings =
      (build.entry :: build.dependencies.identities).flatMap (warningsOf style disk) := by
  obtain ⟨canonical, entryLinked, last, reached, nothing, dependencies, warnings⟩ := ofEntry_built built
  have surveyed := reached.surveyed
  rw [nothing] at surveyed
  have identities : build.dependencies.identities = build.generations.flatten := by
    rw [dependencies, surveyed.identities, List.append_nil]
  have unique := surveyed.nodup
  have found := surveyed.found
  rw [List.append_nil] at unique found
  rw [identities]
  refine ⟨canonical, unique, fun m => ⟨fun member => ?_, surveyed.mem_of_reachable⟩, ?_, entryLinked,
    fun record member => ?_, warnings.trans surveyed.warnings⟩
  · exact reached.reachable (by rwa [← dependencies, identities])
  · rw [← List.flatMap_cons]
    exact found
  · rw [dependencies] at member
    exact (surveyed.source_eq member).2

/-- A disk with a module that imports itself and another one. -/
def mirror : Disk where
  entries := [(["m.ts"], .file "import './m';\nimport './a';\nrequire();".toUTF8),
    (["a.ts"], .file "require('./m', 1);".toUTF8)]
  workingDirectory := []

theorem mirror_built : ∃ build,
    ((ofEntry ⟨.es2020, true⟩ mirror ⟨"m.ts"⟩).runFrom {}).1 = .ok build ∧
    build.entry = ⟨"/m.ts"⟩ ∧ build.dependencies.identities = [⟨"/m.ts"⟩, ⟨"/a.ts"⟩] ∧
    build.warnings = [.malformedRequire ⟨"/m.ts"⟩ 0, .malformedRequire ⟨"/m.ts"⟩ 0,
      .malformedRequire ⟨"/a.ts"⟩ 2] := by
  have run : (((ofEntry ⟨.es2020, true⟩ mirror ⟨"m.ts"⟩).runFrom {}).1.map fun build =>
      (build.entry, build.dependencies.identities, build.warnings)) =
        .ok (⟨"/m.ts"⟩, [⟨"/m.ts"⟩, ⟨"/a.ts"⟩], [.malformedRequire ⟨"/m.ts"⟩ 0,
          .malformedRequire ⟨"/m.ts"⟩ 0, .malformedRequire ⟨"/a.ts"⟩ 2]) := by decide +kernel
  cases built : ((ofEntry ⟨.es2020, true⟩ mirror ⟨"m.ts"⟩).runFrom {}).1 with
  | error e =>
    rw [built] at run
    cases run
  | ok build =>
    rw [built] at run
    simp only [Except.map, Except.ok.injEq, Prod.mk.injEq] at run
    exact ⟨build, rfl, run⟩

/-- The warning of the entry counts twice, since the entry is a record, too. -/
theorem ofEntry_reachable_mirror : ∃ build,
    ((ofEntry ⟨.es2020, true⟩ mirror ⟨"m.ts"⟩).runFrom {}).1 = .ok build ∧
    build.dependencies.identities = [⟨"/m.ts"⟩, ⟨"/a.ts"⟩] ∧
    Relation.TransGen (Refers ⟨.es2020, true⟩ mirror) build.entry build.entry ∧
    build.warnings = (build.entry :: build.dependencies.identities).flatMap
      (warningsOf ⟨.es2020, true⟩ mirror) ∧
    build.warnings = [.malformedRequire ⟨"/m.ts"⟩ 0, .malformedRequire ⟨"/m.ts"⟩ 0,
      .malformedRequire ⟨"/a.ts"⟩ 2] := by
  obtain ⟨build, built, entry, identities, warnings⟩ := mirror_built
  obtain ⟨-, -, reachable, -, -, -, listed⟩ := ofEntry_reachable built
  refine ⟨build, built, identities, (reachable build.entry).mp ?_, listed, warnings⟩
  simp [identities, entry]

end ScriptBundle.Build
