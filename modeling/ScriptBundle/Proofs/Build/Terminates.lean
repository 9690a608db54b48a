import ScriptBundle.Proofs.Build.Reachable
import ScriptBundle.Proofs.Resolution.History

/-! Every run ends. A visit takes one of the files that wait for good and no file waits twice, so the
files bound the visits, and the bound of the loop over generations is never met. -/
namespace ScriptBundle.Build

open Rewriting (Outcome)

variable {style : Script.Style} {disk : Disk} {entry : Identity}

/-- One pass of the loop over generations, which visits all modules that wait. -/
def generation (style : Script.Style) (disk : Disk) (number : Nat) (known : Dependencies) :
    Visit Unit := do
  report .debug ("Generation " ++ toString number ++ ": " ++ toString known.pending.length ++
    " unvisited of " ++ toString known.count ++ " discovered modules")
  known.pending.forM (visitDependency style disk)

/-- How the loop over generations ends if nothing bounds it. -/
inductive Loops (style : Script.Style) (disk : Disk) : Nat → Survey → Session →
    Except BundleError (List (List Identity) × Survey) × Session → Prop where
  | done {number : Nat} {survey : Survey} {s : Session} :
      survey.dependencies.pending = [] → Loops style disk number survey s (.ok ([], survey), s)
  | failed {number : Nat} {survey : Survey} {s s' : Session} {e : BundleError} :
      survey.dependencies.pending ≠ [] →
      ((generation style disk number survey.dependencies).run survey).runFrom s = (.error e, s') →
      Loops style disk number survey s (.error e, s')
  | again {number : Nat} {survey survey' : Survey} {s s' s'' : Session}
      {result : Except BundleError (List (List Identity) × Survey)} :
      survey.dependencies.pending ≠ [] →
      ((generation style disk number survey.dependencies).run survey).runFrom s =
        (.ok ((), survey'), s') →
      Loops style disk (number + 1) survey' s' (result, s'') →
      Loops style disk number survey s
        (result.map fun found => (survey.dependencies.pending :: found.1, found.2), s'')

theorem visitGenerations_run (fuel number : Nat) (survey : Survey) (s : Session) :
    ((visitGenerations style disk (fuel + 1) number).run survey).runFrom s =
      if survey.dependencies.pending.isEmpty then (.ok ([], survey), s)
      else match ((generation style disk number survey.dependencies).run survey).runFrom s with
        | (.error e, s') => (.error e, s')
        | (.ok ((), survey'), s') =>
          let rest := ((visitGenerations style disk fuel (number + 1)).run survey').runFrom s'
          (rest.1.map fun found => (survey.dependencies.pending :: found.1, found.2), rest.2) := by
  have passes : ((visitGenerations style disk (fuel + 1) number).run survey) =
      if survey.dependencies.pending.isEmpty then pure ([], survey)
      else (generation style disk number survey.dependencies).run survey >>= fun behind =>
        (visitGenerations style disk fuel (number + 1)).run behind.2 >>= fun found =>
          pure (survey.dependencies.pending :: found.1, found.2) := by
    rw [visitGenerations, generation]
    simp only [StateT.run_bind, StateT.run_get, pure_bind]
    split_ifs with nothing
    · rfl
    · simp only [StateT.run_bind, bind_assoc]
      rfl
  rw [passes]
  split_ifs with nothing
  · rfl
  · rw [Work.runFrom_bind]
    cases ((generation style disk number survey.dependencies).run survey).runFrom s with
    | mk result s' =>
      cases result with
      | error e => rfl
      | ok behind =>
        dsimp only
        rw [Work.runFrom_bind]
        cases ((visitGenerations style disk fuel (number + 1)).run behind.2).runFrom s' with
        | mk result s'' => cases result <;> rfl

/-- The bounded loop ends like the one without a bound, or it has used up its fuel. -/
theorem visitGenerations_loops (style : Script.Style) (disk : Disk) (fuel number : Nat)
    (survey : Survey) (s : Session) :
    Loops style disk number survey s
        (((visitGenerations style disk fuel number).run survey).runFrom s) ∨
      ∃ generations last, (((visitGenerations style disk fuel number).run survey).runFrom s).1 =
        .ok (generations, last) ∧ generations.length = fuel := by
  induction fuel generalizing number survey s with
  | zero => exact .inr ⟨[], survey, rfl, rfl⟩
  | succ fuel ih =>
    rw [visitGenerations_run]
    split_ifs with nothing
    · exact .inl (.done (List.isEmpty_iff.mp nothing))
    · have some : survey.dependencies.pending ≠ [] := by simpa using nothing
      cases pass : ((generation style disk number survey.dependencies).run survey).runFrom s with
      | mk result s' =>
        cases result with
        | error e => exact .inl (.failed some pass)
        | ok behind =>
          obtain ⟨⟨⟩, survey'⟩ := behind
          obtain loops | ⟨generations, last, run, length⟩ := ih (number + 1) survey' s'
          · exact .inl (.again some pass loops)
          · refine .inr ⟨survey.dependencies.pending :: generations, last, ?_, by simp [length]⟩
            simp only [run]
            rfl

/-- The surveys and sessions that a run passes: behind the visit to the entry, and behind each visit to
the first module that waits. -/
inductive Passes (style : Script.Style) (disk : Disk) (entry : Identity) :
    List Identity → Survey → Session → Prop where
  | entry {log : Log} {text : String} {survey : Survey} {s : Session} :
      ((visit style disk entry).run {}).runFrom { log } = (.ok (text, survey), s) →
      Passes style disk entry [] survey s
  | visit {visited : List Identity} {survey survey' : Survey} {s s' : Session}
      {identity : Identity} {waiting : List Identity} :
      Passes style disk entry visited survey s →
      survey.dependencies.pending = identity :: waiting →
      ((visitDependency style disk identity).run survey).runFrom s = (.ok ((), survey'), s') →
      Passes style disk entry (visited ++ [identity]) survey' s'

theorem Ends.ok {α β : Type} {step : Visit α} {survey : Survey} {visited : List Identity}
    {result : Except BundleError β} {f : β → α × Survey} {s s' : Session} {behind : α × Survey}
    (ends : Ends disk step survey visited (result.map f)) (truthful : s.memo.Truthful disk)
    (run : (step.run survey).runFrom s = (.ok behind, s')) :
    s'.memo.Truthful disk ∧ ∃ found, result = .ok found ∧ f found = behind := by
  obtain ⟨_, run', truthful', -⟩ := ends s truthful
  cases result with
  | error e => cases run.symm.trans run'
  | ok found =>
    cases run.symm.trans run'
    exact ⟨truthful', found, rfl, rfl⟩

theorem visit_ok {identity : Identity} {text : String} {survey survey' : Survey} {s s' : Session}
    (truthful : s.memo.Truthful disk)
    (run : ((visit style disk identity).run survey).runFrom s = (.ok (text, survey'), s')) :
    s'.memo.Truthful disk ∧ ∃ outcome, (link style disk identity).alone = .ok (text, outcome) ∧
      survey' = absorb survey identity outcome := by
  obtain ⟨truthful', ⟨_, outcome⟩, linked, same⟩ :=
    (visit_ends style disk identity survey).ok truthful run
  cases same
  exact ⟨truthful', outcome, linked, rfl⟩

theorem visitDependency_ok {identity : Identity} {survey survey' : Survey} {s s' : Session}
    (truthful : s.memo.Truthful disk)
    (run : ((visitDependency style disk identity).run survey).runFrom s = (.ok ((), survey'), s')) :
    s'.memo.Truthful disk ∧ ∃ text outcome, (link style disk identity).alone = .ok (text, outcome) ∧
      survey' = settle survey identity text outcome := by
  obtain ⟨truthful', ⟨text, outcome⟩, linked, same⟩ :=
    (visitDependency_ends style disk identity survey).ok truthful run
  cases same
  exact ⟨truthful', text, outcome, linked, rfl⟩

theorem Passes.reached {visited : List Identity} {survey : Survey} {s : Session}
    (passes : Passes style disk entry visited survey s) :
    s.memo.Truthful disk ∧ Reached style disk entry visited survey := by
  induction passes with
  | entry run =>
    obtain ⟨truthful, outcome, linked, rfl⟩ := visit_ok (Memo.truthful_empty disk) run
    exact ⟨truthful, .entry linked⟩
  | visit _ first run ih =>
    obtain ⟨truthful, text, outcome, linked, rfl⟩ := visitDependency_ok ih.1 run
    exact ⟨truthful, .visit ih.2 first linked⟩

theorem Reached.passes {visited : List Identity} {survey : Survey}
    (reached : Reached style disk entry visited survey) :
    ∃ s, Passes style disk entry visited survey s := by
  induction reached with
  | entry linked =>
    obtain ⟨s, run, -⟩ := visit_ends style disk entry {} {} (Memo.truthful_empty disk)
    rw [linked] at run
    exact ⟨s, .entry run⟩
  | @visit visited survey identity waiting _ _ _ first linked ih =>
    obtain ⟨s, passes⟩ := ih
    obtain ⟨s', run, -⟩ := visitDependency_ends style disk identity survey s passes.reached.1
    rw [linked] at run
    exact ⟨s', .visit passes first run⟩

/-- A visit leaves the records of visited modules as they are. -/
theorem Reached.keeps {visited waiting : List Identity} {survey : Survey} {identity : Identity}
    {text : String} {outcome : Outcome} (reached : Reached style disk entry visited survey)
    (first : survey.dependencies.pending = identity :: waiting)
    (linked : (link style disk identity).alone = .ok (text, outcome)) {record : Record}
    (member : record ∈ survey.dependencies.records) (known : record.isVisited = true) :
    record ∈ (settle survey identity text outcome).dependencies.records := by
  have before := reached.surveyed
  rw [first] at before
  rw [before.records, List.mem_append] at member
  rw [(before.visit linked).records, List.map_append]
  obtain visited | waits := member
  · simp [visited]
  · obtain ⟨m, -, rfl⟩ := List.mem_map.mp waits
    cases known

/-- A run visits the entry and then different files. -/
theorem Ending.length_le {visited : List Identity} {result : Except BundleError Build}
    (ending : Ending style disk entry visited result) : visited.length ≤ 1 + disk.files.length := by
  cases ending with
  | entryFailed failed => simp
  | failed reached first failed =>
    have bound := reached.surveyed.length_le
    rw [first] at bound
    simp only [List.length_cons, List.length_append, List.length_nil] at bound ⊢
    omega
  | built linked reached nothing nonempty =>
    have bound := reached.surveyed.length_le
    simp only [List.length_cons]
    omega

/-- With more fuel than there are files, the bound of the loop makes no difference. -/
theorem Passes.loops {visited : List Identity} {survey : Survey} {s : Session}
    (passes : Passes style disk entry visited survey s) {fuel : Nat}
    (enough : disk.files.length < fuel) (number : Nat) :
    Loops style disk number survey s
      (((visitGenerations style disk fuel number).run survey).runFrom s) := by
  obtain ⟨truthful, reached⟩ := passes.reached
  obtain loops | ⟨generations, last, ok, length⟩ :=
    visitGenerations_loops style disk fuel number survey s
  · exact loops
  · obtain ⟨more, ends, continues, complete⟩ := visitGenerations_ends reached fuel number
    obtain ⟨s', run, -⟩ := ends s truthful
    rw [run] at ok
    obtain ⟨rfl, nonempty, -⟩ := complete generations last ok
    change explore _ _ _ = _ at ok
    rw [ok] at continues
    have lengths := length_le_flatten nonempty
    have bound : (visited ++ generations.flatten).length + _ ≤ _ :=
      Reached.surveyed continues |>.length_le
    rw [List.length_append] at bound
    omega

/-- A build ends, whatever imports what: resolution finds regular files only, what waits is never
recorded twice, what was visited stays so, the loop ends without its bound, and there are at most as
many visits as there are files, and one. -/
theorem ofEntry_terminates (style : Script.Style) (disk : Disk) (entry : Path) (log : Log) :
    (∀ (calls : List (String × Path)) (l : Resolution.Lookup),
      l ∈ Resolution.lookups (calls.map fun call => .resolve call.1 call.2) disk { log } →
      ∀ identity, l.answer = .ok identity → disk.HasFile identity) ∧
    (∀ start visited survey s, Passes style disk start visited survey s →
      (∀ found : List Identity,
        (found.foldl .discover survey.dependencies).identities.Nodup) ∧
      (∀ identity ∈ survey.dependencies.identities, disk.HasFile identity) ∧
      (∀ identity waiting survey' s', survey.dependencies.pending = identity :: waiting →
        ((visitDependency style disk identity).run survey).runFrom s = (.ok ((), survey'), s') →
        ∀ record ∈ survey.dependencies.records, record.isVisited = true →
          record ∈ survey'.dependencies.records) ∧
      Loops style disk 1 survey s
        (((visitGenerations style disk (disk.entries.length + 1) 1).run survey).runFrom s)) ∧
    (∀ build, ((ofEntry style disk entry).runFrom { log }).1 = .ok build →
      ∃ visited survey s, Passes style disk build.entry visited survey s ∧
        survey.dependencies.pending = [] ∧ build.dependencies = survey.dependencies) ∧
    ∃ visited : List Identity,
      visits ((ofEntry style disk entry).runFrom { log }).2.log =
        visits log ++ visited.map visiting ∧
      visited.length ≤ 1 + disk.files.length := by
  refine ⟨?_, ?_, ?_, ?_⟩
  · intro calls l member identity found
    have answers := Resolution.lookups_unchanged (s := { log }) (Memo.truthful_empty disk) calls
    have answered := List.mem_map_of_mem (f := Resolution.Lookup.answer) member
    rw [answers, found] at answered
    obtain ⟨call, -, alone⟩ := List.mem_map.mp answered
    exact Resolution.hasFile_of_resolve_alone alone
  · intro start visited survey s passes
    obtain ⟨truthful, reached⟩ := passes.reached
    have surveyed := reached.surveyed
    have files := disk.length_files_le
    refine ⟨?_, ?_, ?_, passes.loops (by omega) 1⟩
    · refine Dependencies.nodup_discoverAll ?_
      rw [surveyed.identities]
      exact surveyed.nodup
    · intro identity member
      rw [surveyed.identities] at member
      exact surveyed.hasFile member
    · intro identity waiting survey' s' first run record member known
      obtain ⟨-, text, outcome, linked, rfl⟩ := visitDependency_ok truthful run
      exact reached.keeps first linked member known
  · intro build built
    obtain ⟨-, -, last, reached, nothing, dependencies, -⟩ := ofEntry_built built
    obtain ⟨s, passes⟩ := reached.passes
    exact ⟨_, last, s, passes, nothing, dependencies⟩
  · cases canonical : disk.canonicalize entry with
    | error cause => exact ⟨[], by rw [ofEntry_missing canonical]; simp, by simp⟩
    | ok start =>
      obtain ⟨visited, ending, seen⟩ := ofEntry_ending style canonical log
      exact ⟨visited, seen, ending.length_le⟩

/-- The entry is visited twice if it imports itself, so the bound is met. -/
theorem ofEntry_terminates_mirror : ∃ build,
    ((ofEntry ⟨.es2020, true⟩ mirror ⟨"m.ts"⟩).runFrom {}).1 = .ok build ∧
    build.dependencies.identities.Nodup ∧
    (∀ identity ∈ build.dependencies.identities, mirror.HasFile identity) ∧
    (visits ((ofEntry ⟨.es2020, true⟩ mirror ⟨"m.ts"⟩).runFrom {}).2.log).length =
      1 + mirror.files.length := by
  obtain ⟨build, built, -⟩ := mirror_built
  obtain ⟨-, states, passed, -⟩ := ofEntry_terminates ⟨.es2020, true⟩ mirror ⟨"m.ts"⟩ .empty
  obtain ⟨visited, survey, s, passes, -, dependencies⟩ := passed build built
  obtain ⟨unique, files, -, -⟩ := states _ _ _ _ passes
  rw [← dependencies] at unique files
  exact ⟨build, built, unique [], files, by decide +kernel⟩

end ScriptBundle.Build
