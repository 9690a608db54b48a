import ScriptBundle.Proofs.Build.Exploring
import ScriptBundle.Proofs.Build.Surveys

/-! Whole runs. However visits end, they are visits to the modules that wait, first come first served,
up to the first module that cannot be linked alone; and no run is cut short. -/
namespace ScriptBundle.Build

open Rewriting (Outcome)

variable {style : Script.Style} {disk : Disk} {entry : Identity}

/-- Whether a result is that of more visits behind some visited modules: a survey that is reached, or the
error of the first module that cannot be linked. -/
def Continues (style : Script.Style) (disk : Disk) (entry : Identity) (visited more : List Identity) :
    Except BundleError Survey → Prop
  | .ok last => Reached style disk entry (visited ++ more) last
  | .error e => ∃ before identity survey waiting, more = before ++ [identity] ∧
      Reached style disk entry (visited ++ before) survey ∧
      survey.dependencies.pending = identity :: waiting ∧
      (link style disk identity).alone = .error e

theorem Continues.behind {visited first more : List Identity} {result : Except BundleError Survey}
    (continues : Continues style disk entry (visited ++ first) more result) :
    Continues style disk entry visited (first ++ more) result := by
  cases result with
  | ok last => simpa [Continues] using continues
  | error e =>
    obtain ⟨before, identity, survey, waiting, rfl, reached, pending, failed⟩ := continues
    exact ⟨first ++ before, identity, survey, waiting, by simp, by simpa using reached, pending,
      failed⟩

theorem pending_settle {visited waiting : List Identity} {survey : Survey} {identity : Identity}
    {text : String} {outcome : Outcome} (reached : Reached style disk entry visited survey)
    (first : survey.dependencies.pending = identity :: waiting)
    (linked : (link style disk identity).alone = .ok (text, outcome)) :
    ∃ new, (settle survey identity text outcome).dependencies.pending = waiting ++ new := by
  have surveyed := reached.surveyed
  rw [first] at surveyed
  exact ⟨_, (surveyed.visit linked).pending⟩

/-- Visits to the first modules that wait. -/
theorem visitPending_ends {visited ms later : List Identity} {survey : Survey}
    (reached : Reached style disk entry visited survey)
    (pending : survey.dependencies.pending = ms ++ later) :
    ∃ more, Ends disk (ms.forM (visitDependency style disk)) survey more
        ((exploreAll (alone style disk) ms survey).map ((), ·)) ∧
      Continues style disk entry visited more (exploreAll (alone style disk) ms survey) ∧
      ((exploreAll (alone style disk) ms survey).isOk → more = ms) := by
  induction ms generalizing visited survey later with
  | nil => exact ⟨[], .pure () survey, by simpa [Continues, exploreAll] using reached, fun _ => rfl⟩
  | cons identity rest ih =>
    have visit := visitDependency_ends style disk identity survey
    cases linked : (link style disk identity).alone with
    | error e =>
      have stops : exploreAll (alone style disk) (identity :: rest) survey = .error e := by
        rw [exploreAll, alone, linked]
        rfl
      rw [linked] at visit
      rw [stops]
      exact ⟨[identity], .bind_error visit,
        ⟨[], identity, survey, rest ++ later, rfl, by simpa using reached, pending, linked⟩,
        by rintro ⟨⟩⟩
    | ok found =>
      obtain ⟨text, outcome⟩ := found
      have goes : exploreAll (alone style disk) (identity :: rest) survey =
          exploreAll (alone style disk) rest (settle survey identity text outcome) := by
        rw [exploreAll, alone, linked]
        rfl
      rw [linked] at visit
      rw [goes]
      obtain ⟨new, pending'⟩ := pending_settle reached pending linked
      replace pending' := pending'.trans (List.append_assoc rest later new)
      obtain ⟨more, ends, continues, all⟩ := ih (.visit reached pending linked) pending'
      have behind : Continues style disk entry visited ([identity] ++ more) _ := continues.behind
      exact ⟨identity :: more, .bind visit ends, behind, fun ok => by rw [all ok]⟩

theorem visitGenerations_done {survey : Survey} (nothing : survey.dependencies.pending = [])
    (fuel number : Nat) :
    Ends disk (visitGenerations style disk fuel number) survey [] (.ok ([], survey)) := by
  cases fuel with
  | zero => exact .pure [] survey
  | succ fuel =>
    refine .bind (.get survey) ?_
    dsimp only
    rw [nothing]
    exact .pure [] survey

section

variable {survey middle : Survey} {visited more : List Identity} {fuel number : Nat}

/-- The visits of a generation that is not empty come before those of the next ones. -/
theorem visitGenerations_generation {result : Except BundleError (List (List Identity) × Survey)}
    (some : survey.dependencies.pending ≠ [])
    (first : Ends disk (survey.dependencies.pending.forM (visitDependency style disk)) survey visited
      (.ok ((), middle)))
    (rest : Ends disk (visitGenerations style disk fuel (number + 1)) middle more result) :
    Ends disk (visitGenerations style disk (fuel + 1) number) survey (visited ++ more)
      (result.map fun found => (survey.dependencies.pending :: found.1, found.2)) := by
  refine .silent_bind (.get survey) ?_
  dsimp only
  rw [if_neg (by simpa using some)]
  refine .silent_bind (.report (by simp) survey) (.bind first ?_)
  cases result with
  | error e => exact .bind_error rest
  | ok found =>
    rw [← List.append_nil more]
    exact .bind rest (.pure _ found.2)

theorem visitGenerations_error {e : BundleError} (some : survey.dependencies.pending ≠ [])
    (first : Ends disk (survey.dependencies.pending.forM (visitDependency style disk)) survey visited
      (.error e)) :
    Ends disk (visitGenerations style disk (fuel + 1) number) survey visited (.error e) := by
  refine .silent_bind (.get survey) ?_
  dsimp only
  rw [if_neg (by simpa using some)]
  exact .silent_bind (.report (by simp) survey) (.bind_error first)

end

/-- Generations are visits to the modules that wait until none waits, or until the fuel is used up. -/
theorem visitGenerations_ends {visited : List Identity} {survey : Survey}
    (reached : Reached style disk entry visited survey) (fuel number : Nat) :
    ∃ more, Ends disk (visitGenerations style disk fuel number) survey more
        (explore (alone style disk) fuel survey) ∧
      Continues style disk entry visited more
        ((explore (alone style disk) fuel survey).map (·.2)) ∧
      ∀ generations last, explore (alone style disk) fuel survey = .ok (generations, last) →
        more = generations.flatten ∧ [] ∉ generations ∧
        (last.dependencies.pending = [] ∨ fuel ≤ generations.length) := by
  induction fuel generalizing visited survey number with
  | zero =>
    refine ⟨[], .pure [] survey, by simpa [Continues, Except.map, explore] using reached, ?_⟩
    rintro generations last ⟨⟩
    exact ⟨rfl, by simp, .inr (Nat.le_refl 0)⟩
  | succ fuel ih =>
    by_cases nothing : survey.dependencies.pending = []
    · rw [explore_done nothing]
      refine ⟨[], visitGenerations_done nothing _ _,
        by simpa [Continues, Except.map] using reached, ?_⟩
      rintro generations last ⟨⟩
      exact ⟨rfl, by simp, .inl nothing⟩
    · obtain ⟨first, visits, continues, all⟩ := visitPending_ends reached
        (List.append_nil survey.dependencies.pending).symm
      rw [explore, if_neg (by simpa using nothing)]
      cases behind : exploreAll (alone style disk) survey.dependencies.pending survey with
      | error e =>
        rw [behind] at visits continues
        exact ⟨first, visitGenerations_error nothing visits, continues, by rintro _ _ ⟨⟩⟩
      | ok middle =>
        rw [behind] at visits continues all
        obtain rfl := all rfl
        obtain ⟨more, ends, continues', rest⟩ := ih continues (number + 1)
        refine ⟨_, visitGenerations_generation nothing visits ends, ?_, ?_⟩
        · change Continues _ _ _ _ _ (Except.map _ (Except.map _ _))
          cases run : explore (alone style disk) fuel middle <;> rw [run] at continues' <;>
            exact continues'.behind
        · rintro generations last found
          change Except.map _ _ = _ at found
          cases run : explore (alone style disk) fuel middle with
          | error e =>
            rw [run] at found
            cases found
          | ok behind =>
            obtain ⟨rfl, nonempty, complete⟩ := rest behind.1 behind.2 run
            rw [run] at found
            cases found
            refine ⟨rfl, ?_, by simpa using complete⟩
            simpa using ⟨nothing, nonempty⟩

theorem reportCycle_ends (graph : ModuleGraph) (members : List Path) (survey : Survey) :
    Ends disk (reportCycle graph members) survey [] (.ok ((), survey)) := by
  refine .silent_bind (.report (by simp) survey) ?_
  induction members with
  | nil => exact .pure () survey
  | cons member rest ih => exact .silent_bind (.report (by simp) survey) ih

theorem reportCycles_ends (graph : ModuleGraph) (cycles : List (List Path)) (survey : Survey) :
    Ends disk (cycles.forM (reportCycle graph)) survey [] (.ok ((), survey)) := by
  induction cycles with
  | nil => exact .pure () survey
  | cons members rest ih => exact .silent_bind (reportCycle_ends graph members survey) ih

/-- How a run from an entry ends, and which modules it visits: the first module that cannot be linked
alone makes it fail, and it is done when no module waits. -/
inductive Ending (style : Script.Style) (disk : Disk) (entry : Identity) :
    List Identity → Except BundleError Build → Prop where
  | entryFailed {e : BundleError} : (link style disk entry).alone = .error e →
      Ending style disk entry [entry] (.error e)
  | failed {visited : List Identity} {survey : Survey} {identity : Identity}
      {waiting : List Identity} {e : BundleError} : Reached style disk entry visited survey →
      survey.dependencies.pending = identity :: waiting →
      (link style disk identity).alone = .error e →
      Ending style disk entry (entry :: visited ++ [identity]) (.error e)
  | built {text : String} {outcome : Outcome} {generations : List (List Identity)} {last : Survey} :
      (link style disk entry).alone = .ok (text, outcome) →
      Reached style disk entry generations.flatten last →
      last.dependencies.pending = [] → [] ∉ generations →
      Ending style disk entry (entry :: generations.flatten)
        (.ok ⟨entry, text, last.dependencies, last.graph, last.warnings, generations⟩)

/-- A generation visits at least one module. -/
theorem length_le_flatten {generations : List (List Identity)} (nonempty : [] ∉ generations) :
    generations.length ≤ generations.flatten.length := by
  induction generations with
  | nil => simp
  | cons first rest ih =>
    simp only [List.mem_cons, not_or] at nonempty
    have some := List.length_pos_iff.mpr (Ne.symm nonempty.1)
    have others := ih nonempty.2
    simp only [List.flatten_cons, List.length_append, List.length_cons]
    omega

/-- With more fuel than there are files the generations end because no module waits. -/
theorem pending_eq_nil {last : Survey} {generations : List (List Identity)} {fuel : Nat}
    (reached : Reached style disk entry generations.flatten last) (nonempty : [] ∉ generations)
    (enough : disk.files.length < fuel)
    (ended : last.dependencies.pending = [] ∨ fuel ≤ generations.length) :
    last.dependencies.pending = [] := by
  have bound := reached.surveyed.length_le
  have lengths := length_le_flatten nonempty
  exact ended.resolve_right (by omega)

/-- All that was found by the visits to an entry and the modules that it needs. -/
def gather (entry : Identity) (found : (String × List (List Identity)) × Survey) : Build where
  entry
  entrySource := found.1.1
  dependencies := found.2.dependencies
  graph := found.2.graph
  warnings := found.2.warnings
  generations := found.1.2

theorem visitAll_ends (style : Script.Style) (disk : Disk) (entry : Identity) :
    ∃ visited, Ends disk (visitAll style disk entry) {} visited
        (exploreFrom (alone style disk) (disk.entries.length + 1) entry) ∧
      Ending style disk entry visited
        ((exploreFrom (alone style disk) (disk.entries.length + 1) entry).map (gather entry)) := by
  have first := visit_ends style disk entry {}
  rw [exploreFrom]
  change ∃ visited, Ends _ _ _ _ ((link style disk entry).alone >>= _) ∧
    Ending _ _ _ _ (Except.map _ ((link style disk entry).alone >>= _))
  cases linked : (link style disk entry).alone with
  | error e =>
    rw [linked] at first
    exact ⟨[entry], .bind_error first, .entryFailed linked⟩
  | ok found =>
    obtain ⟨text, outcome⟩ := found
    rw [linked] at first
    obtain ⟨more, ends, continues, complete⟩ :=
      visitGenerations_ends (.entry linked) (disk.entries.length + 1) 1
    change ∃ visited, Ends _ _ _ _ (Except.map _ (explore _ _ _)) ∧
      Ending _ _ _ _ (Except.map _ (Except.map _ (explore _ _ _)))
    cases run : explore (alone style disk) (disk.entries.length + 1) (absorb {} entry outcome) with
    | error e =>
      rw [run] at ends continues
      obtain ⟨before, identity, survey, waiting, rfl, reached, pending, failed⟩ := continues
      exact ⟨_, .bind first (.bind_error ends), .failed reached pending failed⟩
    | ok behind =>
      obtain ⟨generations, last⟩ := behind
      obtain ⟨rfl, nonempty, ended⟩ := complete generations last run
      rw [run] at ends continues
      have files := disk.length_files_le
      have nothing := pending_eq_nil continues nonempty (by omega) ended
      refine ⟨entry :: generations.flatten, ?_, .built linked continues nothing nonempty⟩
      rw [← List.append_nil generations.flatten]
      exact .bind first (.bind ends (.silent_bind (.get last)
        (.silent_bind (reportCycles_ends last.graph last.graph.findCycles last)
          (.silent_bind (.report (by simp) last) (.pure _ last)))))

/-- A run from an entry that exists gives what is explored from there, and reports the modules that it
visits. -/
theorem ofEntry_ends (style : Script.Style) {start : Identity} {entry : Path}
    (canonical : disk.canonicalize entry = .ok start) : ∃ visited,
    Ending style disk start visited
      ((exploreFrom (alone style disk) (disk.entries.length + 1) start).map (gather start)) ∧
    ∀ s : Session, s.memo.Truthful disk →
      ((ofEntry style disk entry).runFrom s).1 =
        (exploreFrom (alone style disk) (disk.entries.length + 1) start).map (gather start) ∧
      visits ((ofEntry style disk entry).runFrom s).2.log =
        visits s.log ++ visited.map visiting := by
  obtain ⟨visited, ends, ending⟩ := visitAll_ends style disk start
  have reported : Ends disk (do
      Build.report .info ("Building module graph from " ++ start.quoted)
      visitAll style disk start) {} visited
        (exploreFrom (alone style disk) (disk.entries.length + 1) start) :=
    .silent_bind (.report (by simp) {}) ends
  refine ⟨visited, ending, fun s truthful => ?_⟩
  obtain ⟨s', run, -, seen⟩ := reported s truthful
  rw [ofEntry, canonical]
  dsimp only
  rw [Work.runFrom_bind, run]
  cases exploreFrom (alone style disk) (disk.entries.length + 1) start with
  | error e => exact ⟨rfl, seen⟩
  | ok found => exact ⟨rfl, seen⟩

theorem ofEntry_explored (style : Script.Style) {start : Identity} {entry : Path}
    (canonical : disk.canonicalize entry = .ok start) (log : Log) :
    ((ofEntry style disk entry).runFrom { log }).1 =
      (exploreFrom (alone style disk) (disk.entries.length + 1) start).map (gather start) := by
  obtain ⟨visited, -, runs⟩ := ofEntry_ends style canonical
  exact (runs { log } (Memo.truthful_empty disk)).1

/-- A run from an entry that exists ends, and reports the modules that it visits. -/
theorem ofEntry_ending (style : Script.Style) {start : Identity} {entry : Path}
    (canonical : disk.canonicalize entry = .ok start) (log : Log) :
    ∃ visited, Ending style disk start visited ((ofEntry style disk entry).runFrom { log }).1 ∧
      visits ((ofEntry style disk entry).runFrom { log }).2.log =
        visits log ++ visited.map visiting := by
  obtain ⟨visited, ending, runs⟩ := ofEntry_ends style canonical
  obtain ⟨result, seen⟩ := runs { log } (Memo.truthful_empty disk)
  rw [← result] at ending
  exact ⟨visited, ending, seen⟩

/-- A run from an entry that does not exist fails before the first visit. -/
theorem ofEntry_missing {entry : Path} {cause : Fault}
    (missing : disk.canonicalize entry = .error cause) (s : Session) :
    (ofEntry style disk entry).runFrom s = (.error (.io entry cause), s) := by
  rw [ofEntry, missing]
  rfl

/-- What was reported before makes no difference. -/
theorem ofEntry_alone (style : Script.Style) (disk : Disk) (entry : Path) (log : Log) :
    ((ofEntry style disk entry).runFrom { log }).1 = (ofEntry style disk entry).alone := by
  rw [Work.alone]
  cases canonical : disk.canonicalize entry with
  | error cause => rw [ofEntry_missing canonical, ofEntry_missing canonical]
  | ok start => rw [ofEntry_explored style canonical, ← ofEntry_explored style canonical .empty]

/-- A run succeeds if its entry and all files can be linked. -/
theorem ofEntry_succeeds {start : Identity} {entry : Path}
    (canonical : disk.canonicalize entry = .ok start)
    (first : (link style disk start).alone.isOk = true)
    (files : ∀ place ∈ disk.files, (link style disk (Disk.canonical place)).alone.isOk = true)
    (log : Log) : ∃ build, ((ofEntry style disk entry).runFrom { log }).1 = .ok build := by
  obtain ⟨visited, ending, -⟩ := ofEntry_ending style canonical log
  generalize ((ofEntry style disk entry).runFrom { log }).1 = result at ending ⊢
  cases ending with
  | entryFailed failed =>
    rw [failed] at first
    cases first
  | @failed visited survey identity waiting e reached pending failed =>
    have surveyed := reached.surveyed
    rw [pending] at surveyed
    obtain ⟨place, content, file, rfl⟩ := surveyed.hasFile (List.mem_append_right _ (.head _))
    have linked := files place ((disk.mem_files place).mpr ⟨content, file⟩)
    rw [failed] at linked
    cases linked
  | built => exact ⟨_, rfl⟩

/-- A run that succeeds ends at a survey in which no module waits, and keeps all of it. -/
theorem ofEntry_last {entry : Path} {log : Log} {build : Build}
    (built : ((ofEntry style disk entry).runFrom { log }).1 = .ok build) :
    disk.canonicalize entry = .ok build.entry ∧
    (∃ outcome, (link style disk build.entry).alone = .ok (build.entrySource, outcome)) ∧
    [] ∉ build.generations ∧
    ∃ last, Reached style disk build.entry build.generations.flatten last ∧
      last.dependencies.pending = [] ∧
      build = gather build.entry ((build.entrySource, build.generations), last) := by
  cases canonical : disk.canonicalize entry with
  | error cause =>
    rw [ofEntry_missing canonical] at built
    cases built
  | ok start =>
    obtain ⟨visited, ending, -⟩ := ofEntry_ending style canonical log
    rw [built] at ending
    cases ending with
    | built linked reached nothing nonempty =>
      exact ⟨rfl, ⟨_, linked⟩, nonempty, _, reached, nothing, rfl⟩

/-- What a run that succeeds has found, as far as bundles need it. -/
theorem ofEntry_built {entry : Path} {log : Log} {build : Build}
    (built : ((ofEntry style disk entry).runFrom { log }).1 = .ok build) :
    disk.canonicalize entry = .ok build.entry ∧
    (∃ outcome, (link style disk build.entry).alone = .ok (build.entrySource, outcome)) ∧
    ∃ last, Reached style disk build.entry build.generations.flatten last ∧
      last.dependencies.pending = [] ∧ build.dependencies = last.dependencies ∧
      build.warnings = last.warnings := by
  obtain ⟨canonical, linked, -, last, reached, nothing, all⟩ := ofEntry_last built
  exact ⟨canonical, linked, last, reached, nothing, congrArg Build.dependencies all,
    congrArg Build.warnings all⟩

/-- A run that succeeds has recorded the modules of all generations, in this order. -/
theorem ofEntry_generations {entry : Path} {log : Log} {build : Build}
    (built : ((ofEntry style disk entry).runFrom { log }).1 = .ok build) :
    build.dependencies.identities = build.generations.flatten := by
  obtain ⟨-, -, -, last, reached, nothing, all⟩ := ofEntry_last built
  have surveyed := reached.surveyed
  rw [nothing] at surveyed
  have dependencies : build.dependencies = last.dependencies := congrArg Build.dependencies all
  rw [dependencies, surveyed.identities, List.append_nil]

/-- A run that succeeds has surveyed what it records, and nothing else waits. -/
theorem ofEntry_surveyed {entry : Path} {log : Log} {build : Build}
    (built : ((ofEntry style disk entry).runFrom { log }).1 = .ok build) :
    ∃ last, Reached style disk build.entry build.dependencies.identities last ∧
      Surveyed style disk build.entry build.dependencies.identities [] last ∧
      build.dependencies = last.dependencies ∧ build.graph = last.graph := by
  obtain ⟨-, -, -, last, reached, nothing, all⟩ := ofEntry_last built
  have surveyed := reached.surveyed
  rw [nothing] at surveyed
  rw [ofEntry_generations built]
  exact ⟨last, reached, surveyed, congrArg Build.dependencies all, congrArg Build.graph all⟩

end ScriptBundle.Build
