import ScriptBundle.Proofs.Build.Terminates
import ScriptBundle.Proofs.Graph.Drawing
import ScriptBundle.Proofs.Rewriting.Requests

/-! The graph of a build. Whatever was visited, the graph has the modules that are known, the entry
first, and the references of the modules that were visited; a second visit of the entry finds all of
them there. -/
namespace ScriptBundle.Build

open Disk (IsProper IsCanonical)
open ModuleGraph (Draws referencesOf)
open Rewriting (Outcome)

variable {style : Script.Style} {disk : Disk} {entry : Identity}

/-- Linking a module finds answers, each once. -/
theorem recorded_of_linked {identity : Identity} {text : String} {outcome : Outcome}
    (linked : (link style disk identity).alone = .ok (text, outcome)) :
    outcome.dependencies.Nodup ∧ ∀ target ∈ outcome.dependencies,
      ∃ specifier, Resolution.answer disk specifier identity = .ok target := by
  obtain ⟨m, tree, -⟩ := exists_linkedModule linked
  unfold linkedModule at tree
  obtain ⟨source, -, tree⟩ := bind_eq_ok.mp tree
  obtain ⟨parsed, -, tree⟩ := bind_eq_ok.mp tree
  obtain ⟨-, met⟩ := (Rewriting.link_answers parsed.resolved).result {} m outcome tree
  exact Rewriting.recorded_of_perform met

/-- A module refers to each module once, and as resolution answers. -/
theorem references_recorded (style : Script.Style) (disk : Disk) (m : Identity) :
    (references style disk m).Nodup ∧ ∀ target ∈ references style disk m,
      ∃ specifier, Resolution.answer disk specifier m = .ok target := by
  unfold references
  split
  next text outcome linked => exact recorded_of_linked linked
  next => simp

theorem nodup_references (m : Identity) : (references style disk m).Nodup :=
  (references_recorded style disk m).1

theorem isCanonical_of_mem_references (working : IsProper disk.workingDirectory)
    {m target : Identity} (member : target ∈ references style disk m) : IsCanonical target := by
  obtain ⟨specifier, answered⟩ := (references_recorded style disk m).2 target member
  unfold Resolution.answer at answered
  split at answered
  next identity found =>
    obtain rfl := Except.ok.inj answered
    obtain ⟨path, -, file⟩ := List.exists_of_findSome?_eq_some found
    exact Disk.isCanonical_canonicalize working ((disk.fileAt_eq_some_iff path _).mp file).2
  next => cases answered

/-- A visit records the references of a module that is in the graph. -/
theorem draws_absorb (working : IsProper disk.workingDirectory) {survey : Survey}
    {mentioned sources : List Identity} {identity : Identity} {text : String} {outcome : Outcome}
    (draws : Draws (survey.graph.addModule identity).1 mentioned
      (referencesOf (references style disk) sources))
    (known : identity ∈ mentioned)
    (linked : (link style disk identity).alone = .ok (text, outcome)) :
    Draws (absorb survey identity outcome).graph (mentioned ++ references style disk identity)
      (referencesOf (references style disk) (sources ++ [identity])) := by
  have canonical : ∀ target ∈ references style disk identity, IsCanonical target :=
    fun target member => isCanonical_of_mem_references working member
  have recorded := draws.addDependencies known canonical
  rw [absorb, ← references_eq linked]
  simpa [referencesOf] using recorded

theorem Reached.draws (working : IsProper disk.workingDirectory) (canonical : IsCanonical entry)
    {visited : List Identity} {survey : Survey} (reached : Reached style disk entry visited survey) :
    Draws survey.graph (entry :: (entry :: visited).flatMap (references style disk))
      (referencesOf (references style disk) (entry :: visited)) := by
  induction reached with
  | entry linked =>
    have start : Draws (({} : Survey).graph.addModule entry).1 [entry]
        (referencesOf (references style disk) []) :=
      ⟨rfl, rfl, by simpa using canonical⟩
    simpa using draws_absorb working start (.head _) linked
  | @visit visited survey identity waiting text outcome reached first linked ih =>
    have surveyed := reached.surveyed
    rw [first] at surveyed
    -- The module waits because some module before refers to it.
    have known : identity ∈ entry :: (entry :: visited).flatMap (references style disk) := by
      refine .tail _ (List.mem_flatMap.mpr (surveyed.mem_iff.mp ?_))
      simp
    obtain ⟨i, same, -⟩ := ih.addModule_of_mem known
    have start : (survey.graph.addModule identity).1 = survey.graph := congrArg Prod.fst same
    rw [← start] at ih
    simpa [settle] using draws_absorb working ih known linked

/-- A second visit to the entry leaves the graph as it is. -/
theorem Reached.graph_settle_entry (working : IsProper disk.workingDirectory)
    (canonical : IsCanonical entry) {visited : List Identity} {survey : Survey} {text : String}
    {outcome : Outcome} (reached : Reached style disk entry visited survey)
    (linked : (link style disk entry).alone = .ok (text, outcome)) :
    (settle survey entry text outcome).graph = survey.graph := by
  have draws := reached.draws working canonical
  obtain ⟨i, same, -⟩ := draws.addModule_of_mem (.head _)
  change outcome.dependencies.foldl (·.addDependency entry ·) (survey.graph.addModule entry).1 = _
  rw [same, ← references_eq linked]
  exact draws.addDependencies_of_mem fun target member =>
    ModuleGraph.mem_referencesOf.mpr ⟨.head _, member⟩

/-- The graph of a build has the entry and then the other records, and from each of them edges to what
it refers to, in this order; so the neighbours of a module come in the order of its references and in
the order of the visits to those that refer to it. Visiting the entry once more changes nothing. The
working directory has to be a place that can be reached. -/
theorem ofEntry_graph (working : IsProper disk.workingDirectory) {entry : Path} {log : Log}
    {build : Build} (built : ((ofEntry style disk entry).runFrom { log }).1 = .ok build) :
    build.graph.modules = build.entry :: build.dependencies.identities.filter (· != build.entry) ∧
    build.graph.modules.Nodup ∧
    (∀ edge ∈ build.graph.edges, ∃ source target,
      build.graph.ends edge = (some source, some target)) ∧
    (∀ source target, build.graph.Joins source target ↔
      source ∈ build.graph.modules ∧ target ∈ references style disk source) ∧
    build.graph.edges.Nodup ∧
    (∀ m ∈ build.graph.modules,
      build.graph.dependenciesOf m = references style disk m ∧
      build.graph.dependentsOf m =
        build.graph.modules.filter (m ∈ references style disk ·)) ∧
    ∀ visited survey s waiting survey' s', Passes style disk build.entry visited survey s →
      survey.dependencies.pending = build.entry :: waiting →
      ((visitDependency style disk build.entry).run survey).runFrom s = (.ok ((), survey'), s') →
      survey'.graph = survey.graph := by
  obtain ⟨canonical, -⟩ := ofEntry_built built
  obtain ⟨last, reached, surveyed, -, graph⟩ := ofEntry_surveyed built
  have entryCanonical := Disk.isCanonical_canonicalize working canonical
  have draws := reached.draws working entryCanonical
  have unique := surveyed.nodup
  have found := surveyed.found
  rw [List.append_nil] at unique found
  rw [← graph] at draws
  have modules : build.graph.modules = (build.entry :: build.dependencies.identities).eraseDups := by
    rw [draws.modules, eraseDups_cons, ← found, eraseDups_cons, eraseDups_of_nodup unique]
  have mentioned : ∀ m, m ∈ build.graph.modules ↔
      m ∈ build.entry :: (build.entry :: build.dependencies.identities).flatMap
        (references style disk) := by
    simp [draws.modules]
  have sources : ∀ m, m ∈ build.graph.modules ↔ m ∈ build.entry :: build.dependencies.identities := by
    simp [modules]
  refine ⟨?_, draws.nodup_modules, fun edge member => draws.exists_ends member,
    fun source target => ?_, draws.nodup_edges, fun m member => ?_, ?_⟩
  · rw [modules, eraseDups_cons, eraseDups_of_nodup unique]
  · rw [draws.joins_iff, ModuleGraph.mem_referencesOf, sources]
  · constructor
    · exact draws.dependenciesOf_eq nodup_references ((mentioned m).mp member) ((sources m).mp member)
    · rw [draws.dependentsOf_eq nodup_references ((mentioned m).mp member), modules]
  · intro visited survey s waiting survey' s' passes first run
    obtain ⟨truthful, reached⟩ := passes.reached
    obtain ⟨-, text, outcome, linked, rfl⟩ := visitDependency_ok truthful run
    exact reached.graph_settle_entry working entryCanonical linked

/-- The entry imports itself, so it is a record, and the first one that is visited. -/
theorem ofEntry_graph_mirror : ∃ build,
    ((ofEntry ⟨.es2020, true⟩ mirror ⟨"m.ts"⟩).runFrom {}).1 = .ok build ∧
    build.graph.modules = [⟨"/m.ts"⟩, ⟨"/a.ts"⟩] ∧
    build.graph.dependenciesOf ⟨"/m.ts"⟩ = [⟨"/m.ts"⟩, ⟨"/a.ts"⟩] ∧
    build.graph.dependentsOf ⟨"/m.ts"⟩ = [⟨"/m.ts"⟩] ∧
    ∃ survey s survey' s', Passes ⟨.es2020, true⟩ mirror build.entry [] survey s ∧
      ((visitDependency ⟨.es2020, true⟩ mirror build.entry).run survey).runFrom s =
        (.ok ((), survey'), s') ∧
      build.entry ∈ survey'.dependencies.identities ∧ survey'.graph = survey.graph := by
  obtain ⟨build, built, entry, identities, -⟩ := mirror_built
  obtain ⟨modules, -, -, -, -, neighbours, again⟩ := ofEntry_graph (by decide) built
  have here : build.graph.modules = [⟨"/m.ts"⟩, ⟨"/a.ts"⟩] := by
    rw [modules, entry, identities]
    rfl
  rw [here] at neighbours
  obtain ⟨dependencies, dependents⟩ := neighbours ⟨"/m.ts"⟩ (.head _)
  have runs : ∃ found ∈ (((visit ⟨.es2020, true⟩ mirror ⟨"/m.ts"⟩).run {}).runFrom {}).1.toOption,
      found.2.dependencies.pending = [⟨"/m.ts"⟩, ⟨"/a.ts"⟩] ∧
      ∃ behind ∈ (((visitDependency ⟨.es2020, true⟩ mirror ⟨"/m.ts"⟩).run found.2).runFrom
        (((visit ⟨.es2020, true⟩ mirror ⟨"/m.ts"⟩).run {}).runFrom {}).2).1.toOption,
      ⟨"/m.ts"⟩ ∈ behind.2.dependencies.identities := by decide +kernel
  obtain ⟨⟨text, survey⟩, first, pending, ⟨⟨⟩, survey'⟩, second, recorded⟩ := runs
  rw [entry] at again
  have passes : Passes ⟨.es2020, true⟩ mirror ⟨"/m.ts"⟩ [] survey _ :=
    .entry (Prod.ext (mem_toOption.mp first) rfl)
  have run : ((visitDependency ⟨.es2020, true⟩ mirror ⟨"/m.ts"⟩).run survey).runFrom _ =
      (.ok ((), survey'), _) := Prod.ext (mem_toOption.mp second) rfl
  refine ⟨build, built, here, dependencies.trans (by decide +kernel),
    dependents.trans (by decide +kernel), ?_⟩
  rw [entry]
  exact ⟨survey, _, survey', _, passes, run, recorded, again _ _ _ _ _ _ passes pending run⟩

end ScriptBundle.Build
