import Mathlib.Data.List.GetD
import Mathlib.Order.Bounds.Basic
import ScriptBundle.Proofs.Build.Terminates

/-! Generations are levels of a breadth-first search. When a generation starts, what was visited are the
modules on shorter paths from the entry, so what waits are the modules of which the shortest path has
as many references as the number of the generation says. -/
namespace ScriptBundle.Build

variable {style : Script.Style} {disk : Disk} {entry m : Identity} {k n : Nat}

/-- Whether a path of so many references leads from the entry to a module. -/
inductive ReachesIn (style : Script.Style) (disk : Disk) (entry : Identity) :
    Nat → Identity → Prop where
  | here : ReachesIn style disk entry 0 entry
  | refers {k : Nat} {source target : Identity} : ReachesIn style disk entry k source →
      Refers style disk source target → ReachesIn style disk entry (k + 1) target

/-- Whether the shortest path from the entry to a module has so many references, where a path has at
least one. -/
def IsDistance (style : Script.Style) (disk : Disk) (entry m : Identity) (k : Nat) : Prop :=
  IsLeast {k | 0 < k ∧ ReachesIn style disk entry k m} k

theorem ReachesIn.transGen (reaches : ReachesIn style disk entry (k + 1) m) :
    Relation.TransGen (Refers style disk) entry m := by
  generalize length : k + 1 = l at reaches
  induction reaches generalizing k with
  | here => omega
  | @refers l source target before refers ih =>
    cases before with
    | here => exact .single refers
    | refers => exact .tail (ih rfl) refers

theorem isDistance_succ_iff : IsDistance style disk entry m (n + 1) ↔
    ReachesIn style disk entry (n + 1) m ∧ ∀ j < n, ¬ReachesIn style disk entry (j + 1) m := by
  constructor
  · rintro ⟨⟨-, reaches⟩, least⟩
    refine ⟨reaches, fun j lt shorter => ?_⟩
    have := least ⟨Nat.succ_pos j, shorter⟩
    omega
  · rintro ⟨reaches, shorter⟩
    refine ⟨⟨Nat.succ_pos n, reaches⟩, ?_⟩
    rintro (_ | j) ⟨positive, other⟩
    · omega
    · have := mt (shorter j) (not_not_intro other)
      omega

/-- A survey between two generations: as many generations as there are levels were visited. -/
structure Leveled (style : Script.Style) (disk : Disk) (entry : Identity) (n : Nat)
    (visited : List Identity) (survey : Survey) : Prop where
  reached : Reached style disk entry visited survey
  nearer : ∀ m, m ∈ visited ↔ ∃ j < n, ReachesIn style disk entry (j + 1) m

namespace Leveled

variable {visited : List Identity} {survey middle : Survey}

/-- What is known is what was visited and what is one reference behind it. -/
theorem known_iff (leveled : Leveled style disk entry n visited survey) :
    m ∈ visited ++ survey.dependencies.pending ↔
      ∃ j < n + 1, ReachesIn style disk entry (j + 1) m := by
  rw [leveled.reached.surveyed.mem_iff]
  constructor
  · rintro ⟨source, known, refers⟩
    obtain rfl | known := List.mem_cons.mp known
    · exact ⟨0, by omega, .refers .here refers⟩
    · obtain ⟨j, lt, reaches⟩ := (leveled.nearer source).mp known
      exact ⟨j + 1, by omega, .refers reaches refers⟩
  · rintro ⟨j, lt, @⟨⟩ | ⟨before, refers⟩⟩
    cases j with
    | zero =>
      cases before
      exact ⟨entry, .head _, refers⟩
    | succ j => exact ⟨_, .tail _ ((leveled.nearer _).mpr ⟨j, by omega, before⟩), refers⟩

/-- What waits is on the next level. -/
theorem mem_pending_iff (leveled : Leveled style disk entry n visited survey) :
    m ∈ survey.dependencies.pending ↔ IsDistance style disk entry m (n + 1) := by
  have known := leveled.known_iff (m := m)
  have nearer := leveled.nearer m
  have unique := leveled.reached.surveyed.nodup
  have apart : m ∈ survey.dependencies.pending ↔
      m ∈ visited ++ survey.dependencies.pending ∧ m ∉ visited := by
    rw [List.mem_append]
    have := (List.nodup_append.mp unique).2.2
    grind
  rw [apart, known, nearer, isDistance_succ_iff]
  constructor
  · rintro ⟨⟨j, lt, reaches⟩, farther⟩
    obtain rfl : j = n := by
      by_contra other
      exact farther ⟨j, by omega, reaches⟩
    exact ⟨reaches, fun j lt nearer => farther ⟨j, lt, nearer⟩⟩
  · rintro ⟨reaches, farther⟩
    exact ⟨⟨n, by omega, reaches⟩, fun ⟨j, lt, nearer⟩ => farther j lt nearer⟩

/-- A generation visits one level. -/
theorem next (leveled : Leveled style disk entry n visited survey)
    (pass : exploreAll (alone style disk) survey.dependencies.pending survey = .ok middle) :
    Leveled style disk entry (n + 1) (visited ++ survey.dependencies.pending) middle := by
  obtain ⟨more, -, continues, all⟩ :=
    visitPending_ends leveled.reached (List.append_nil survey.dependencies.pending).symm
  rw [pass] at continues all
  obtain rfl := all rfl
  exact ⟨continues, fun m => leveled.known_iff⟩

/-- When no module waits, there are no more levels. -/
theorem not_isDistance (leveled : Leveled style disk entry n visited survey)
    (nothing : survey.dependencies.pending = []) :
    ¬IsDistance style disk entry m (n + k + 1) := by
  intro distance
  obtain ⟨reaches, farther⟩ := isDistance_succ_iff.mp distance
  have surveyed := leveled.reached.surveyed
  rw [nothing] at surveyed
  obtain ⟨j, lt, nearer⟩ := (leveled.nearer m).mp (surveyed.mem_of_reachable reaches.transGen)
  exact farther j (by omega) nearer

/-- The generations of a run to its end are the levels from where it starts. -/
theorem mem_generation_iff {fuel : Nat} {last : Survey} {generations : List (List Identity)}
    (leveled : Leveled style disk entry n visited survey)
    (run : explore (alone style disk) fuel survey = .ok (generations, last))
    (nothing : last.dependencies.pending = []) (k : Nat) :
    m ∈ generations.getD k [] ↔ IsDistance style disk entry m (n + k + 1) := by
  induction fuel generalizing n visited survey generations k with
  | zero =>
    obtain ⟨rfl, rfl⟩ := Prod.mk.inj (Except.ok.inj run)
    simpa using leveled.not_isDistance nothing
  | succ fuel ih =>
    by_cases done : survey.dependencies.pending = []
    · rw [explore_done done] at run
      obtain ⟨rfl, rfl⟩ := Prod.mk.inj (Except.ok.inj run)
      simpa using leveled.not_isDistance nothing
    · obtain ⟨middle, rest, pass, later, rfl⟩ := (explore_eq_ok done).mp run
      cases k with
      | zero => exact leveled.mem_pending_iff
      | succ k =>
        have below := ih (leveled.next pass) later k
        rwa [show n + 1 + k + 1 = n + (k + 1) + 1 by omega] at below

end Leveled

section Runs

variable {α β : Type}

/-- A step and the next one go well if the first goes well and then the second does. -/
theorem run_bind_ok {step : Visit α} {next : α → Visit β} {survey last : Survey} {s s'' : Session}
    {b : β} : ((step >>= next).run survey).runFrom s = (.ok (b, last), s'') ↔
      ∃ a middle s', (step.run survey).runFrom s = (.ok (a, middle), s') ∧
        ((next a).run middle).runFrom s' = (.ok (b, last), s'') := by
  rw [StateT.run_bind, Work.runFrom_bind]
  cases first : (step.run survey).runFrom s with
  | mk result s' =>
    cases result with
    | error e => simp
    | ok found => simp [Prod.ext_iff]

/-- What a run reports in the end. -/
def completed (found generations : Nat) : Report :=
  ⟨.info, "reqless::graph_builder", "Module graph complete: " ++ toString found ++
    " dependencies in " ++ toString generations ++ " generations"⟩

/-- Visits that go well pass the survey behind the entry, and report what the loop from there found. -/
theorem visitAll_ok {log : Log} {text : String} {generations : List (List Identity)} {last : Survey}
    {s' : Session}
    (run : ((visitAll style disk entry).run {}).runFrom { log } =
      (.ok ((text, generations), last), s')) :
    ∃ survey s s'', Passes style disk entry [] survey s ∧
      ((visitGenerations style disk (disk.entries.length + 1) 1).run survey).runFrom s =
        (.ok (generations, last), s'') ∧
      s'.log.newest.head? = some (completed last.dependencies.count generations.length) := by
  rw [visitAll] at run
  obtain ⟨_, survey, s₁, first, run⟩ := run_bind_ok.mp run
  obtain ⟨found, behind, s₂, loop, run⟩ := run_bind_ok.mp run
  obtain ⟨_, _, s₃, here, run⟩ := run_bind_ok.mp run
  cases here
  obtain ⟨_, last', s₄, cycles, run⟩ := run_bind_ok.mp run
  have passes := Passes.entry first
  obtain ⟨more, ends, -⟩ :=
    visitGenerations_ends passes.reached.2 (disk.entries.length + 1) 1
  obtain ⟨_, loop', truthful, -⟩ := ends s₁ passes.reached.1
  obtain rfl := (Prod.mk.inj (loop.symm.trans loop')).2
  obtain ⟨_, cycles', -⟩ := reportCycles_ends behind.graph behind.graph.findCycles behind _ truthful
  rw [cycles] at cycles'
  cases cycles'
  cases run
  exact ⟨survey, s₁, s₂, passes, loop, rfl⟩

/-- A build that succeeds keeps what the loop from the survey behind the entry found, and reports how
much this is. -/
theorem ofEntry_loop {entry : Path} {log : Log} {build : Build}
    (built : ((ofEntry style disk entry).runFrom { log }).1 = .ok build) :
    ∃ survey s last s', Passes style disk build.entry [] survey s ∧
      ((visitGenerations style disk (disk.entries.length + 1) 1).run survey).runFrom s =
        (.ok (build.generations, last), s') ∧
      build.dependencies = last.dependencies ∧
      ((ofEntry style disk entry).runFrom { log }).2.log.newest.head? =
        some (completed build.dependencies.count build.generations.length) := by
  cases canonical : disk.canonicalize entry with
  | error cause =>
    rw [ofEntry_missing canonical] at built
    cases built
  | ok start =>
    rw [ofEntry, canonical] at built ⊢
    dsimp only at built ⊢
    rw [Work.runFrom_bind] at built ⊢
    generalize ran : Work.runFrom (StateT.run _ _) _ = outcome at built ⊢
    obtain ⟨_ | ⟨⟨text, generations⟩, last⟩, s⟩ := outcome
    · cases built
    · cases built
      obtain ⟨_, _, _, reported, run⟩ := run_bind_ok.mp ran
      cases reported
      obtain ⟨survey, s', s'', passes, loop, report⟩ := visitAll_ok run
      exact ⟨survey, s', last, s'', passes, loop, rfl, report⟩

/-- A build that succeeds visits its entry, and then its generations. -/
theorem ofEntry_visits {entry : Path} {log : Log} {build : Build}
    (built : ((ofEntry style disk entry).runFrom { log }).1 = .ok build) :
    visits ((ofEntry style disk entry).runFrom { log }).2.log =
      visits log ++ (build.entry :: build.generations.flatten).map visiting := by
  obtain ⟨canonical, -⟩ := ofEntry_last built
  obtain ⟨visited, ending, seen⟩ := ofEntry_ending style canonical log
  generalize ((ofEntry style disk entry).runFrom { log }).1 = result at ending built
  cases ending with
  | entryFailed => cases built
  | failed => cases built
  | built =>
    have same := congrArg Build.generations (Except.ok.inj built)
    rwa [← same]

end Runs

section Levels

variable {generations : List (List Identity)}
  (levels : ∀ k m, m ∈ generations.getD k [] ↔ IsDistance style disk entry m (k + 1))
include levels

/-- Levels come in the order of distances. -/
theorem pairwise_flatten_levels : generations.flatten.Pairwise fun a b => ∀ i j,
    IsDistance style disk entry a i → IsDistance style disk entry b j → i ≤ j := by
  have distance {k : Nat} (lt : k < generations.length) {m : Identity} (member : m ∈ generations[k])
      {i : Nat} (distance : IsDistance style disk entry m i) : i = k + 1 := by
    refine distance.unique ((levels k m).mp ?_)
    rwa [List.getD_eq_getElem _ _ lt]
  rw [List.pairwise_flatten]
  constructor
  · intro generation listed
    obtain ⟨k, lt, rfl⟩ := List.getElem_of_mem listed
    refine List.pairwise_iff_forall_sublist.mpr fun {a b} both i j here there => ?_
    have first := both.subset List.mem_cons_self
    have second := both.subset (List.mem_cons_of_mem _ List.mem_cons_self)
    rw [distance lt first here, distance lt second there]
  · rw [List.pairwise_iff_getElem]
    intro k l lt lt' before a first b second i j here there
    rw [distance lt first here, distance lt' second there]
    omega

/-- If no level is empty, there are as many as the greatest distance says. -/
theorem isGreatest_length (nonempty : [] ∉ generations) :
    IsGreatest {k | k = 0 ∨ ∃ m, IsDistance style disk entry m k} generations.length := by
  constructor
  · cases length : generations.length with
    | zero => exact .inl rfl
    | succ k =>
      have lt : k < generations.length := by omega
      have some : generations[k] ≠ [] := fun none => nonempty (none ▸ List.getElem_mem lt)
      obtain ⟨m, member⟩ := List.exists_mem_of_ne_nil _ some
      refine .inr ⟨m, (levels k m).mp ?_⟩
      rwa [List.getD_eq_getElem _ _ lt]
  · rintro k (rfl | ⟨m, distance⟩)
    · exact Nat.zero_le _
    · obtain ⟨k, rfl⟩ := Nat.exists_eq_succ_of_ne_zero (Nat.ne_of_gt distance.1.1)
      have member := (levels k m).mpr distance
      by_contra beyond
      rw [List.getD_eq_default _ _ (by omega)] at member
      cases member

end Levels

/-- The generations of a build are the passes of the loop behind the visit to the entry. The modules of
each are those of which the shortest path from the entry has as many references as its number says, in
the order of discovery, in which all are visited behind the entry and recorded. So the records come in
the order of their distances, and the greatest one, or 0 if there is no record, is the number of
generations that is reported in the end. -/
theorem ofEntry_levels {entry : Path} {log : Log} {build : Build}
    (built : ((ofEntry style disk entry).runFrom { log }).1 = .ok build) :
    (∃ survey s last s', Passes style disk build.entry [] survey s ∧
      Loops style disk 1 survey s (.ok (build.generations, last), s') ∧
      build.dependencies = last.dependencies) ∧
    (∀ k m, m ∈ build.generations.getD k [] ↔ IsDistance style disk build.entry m (k + 1)) ∧
    build.generations.flatten = ((build.entry :: build.generations.flatten).flatMap
      (references style disk)).eraseDups ∧
    visits ((ofEntry style disk entry).runFrom { log }).2.log =
      visits log ++ (build.entry :: build.generations.flatten).map visiting ∧
    build.dependencies.identities = build.generations.flatten ∧
    (build.dependencies.identities.Pairwise fun a b => ∀ i j,
      IsDistance style disk build.entry a i → IsDistance style disk build.entry b j → i ≤ j) ∧
    IsGreatest {k | k = 0 ∨ ∃ m, IsDistance style disk build.entry m k} build.generations.length ∧
    ((ofEntry style disk entry).runFrom { log }).2.log.newest.head? =
      some (completed build.dependencies.count build.generations.length) := by
  obtain ⟨survey, s, last, s', passes, loop, dependencies, report⟩ := ofEntry_loop built
  obtain ⟨truthful, reached⟩ := passes.reached
  obtain ⟨-, -, nonempty, final, -, nothing, all⟩ := ofEntry_last built
  obtain ⟨-, -, -, discovered, -⟩ := ofEntry_reachable built
  have recorded := ofEntry_generations built
  have files := disk.length_files_le
  have enough : disk.files.length < disk.entries.length + 1 := by omega
  have loops := passes.loops enough 1
  rw [loop] at loops
  obtain ⟨more, ends, -⟩ := visitGenerations_ends reached (disk.entries.length + 1) 1
  obtain ⟨_, run, -⟩ := ends s truthful
  rw [loop] at run
  have same : build.dependencies = final.dependencies := congrArg Build.dependencies all
  rw [← same, dependencies] at nothing
  have start : Leveled style disk build.entry 0 [] survey := ⟨reached, by simp⟩
  have levels (k : Nat) (m : Identity) :
      m ∈ build.generations.getD k [] ↔ IsDistance style disk build.entry m (k + 1) := by
    simpa using start.mem_generation_iff (Prod.mk.inj run).1.symm nothing k
  refine ⟨⟨survey, s, last, s', passes, loops, dependencies⟩, levels, ?_, ofEntry_visits built,
    recorded, ?_, isGreatest_length levels nonempty, report⟩
  · rwa [recorded] at discovered
  · rw [recorded]
    exact pairwise_flatten_levels levels

/-- A disk on which the entry is imported back on a way of three references, and a module both directly
and on a longer way. -/
def spiral : Disk where
  entries := [(["m.ts"], .file "import './a';\nimport './b';".toUTF8),
    (["a.ts"], .file "import './c';".toUTF8), (["b.ts"], .file "import './a';".toUTF8),
    (["c.ts"], .file "import './m';\nimport './b';".toUTF8)]
  workingDirectory := []

theorem spiral_built : ∃ build,
    ((ofEntry ⟨.es2020, true⟩ spiral ⟨"m.ts"⟩).runFrom {}).1 = .ok build ∧
    build.entry = ⟨"/m.ts"⟩ ∧
    build.generations = [[⟨"/a.ts"⟩, ⟨"/b.ts"⟩], [⟨"/c.ts"⟩], [⟨"/m.ts"⟩]] := by
  have here : spiral.canonicalize ⟨"m.ts"⟩ = .ok ⟨"/m.ts"⟩ := by decide
  have explored : ∃ found ∈ (exploreFrom (alone ⟨.es2020, true⟩ spiral)
      (spiral.entries.length + 1) ⟨"/m.ts"⟩).toOption,
      found.1.2 = [[⟨"/a.ts"⟩, ⟨"/b.ts"⟩], [⟨"/c.ts"⟩], [⟨"/m.ts"⟩]] := by decide +kernel
  obtain ⟨found, run, generations⟩ := explored
  refine ⟨gather ⟨"/m.ts"⟩ found, ?_, rfl, generations⟩
  rw [ofEntry_explored _ here .empty, mem_toOption.mp run]
  rfl

/-- The entry is imported back, so its distance is the length of its shortest cycle. -/
theorem ofEntry_levels_spiral : ∃ build,
    ((ofEntry ⟨.es2020, true⟩ spiral ⟨"m.ts"⟩).runFrom {}).1 = .ok build ∧
    IsDistance ⟨.es2020, true⟩ spiral build.entry ⟨"/b.ts"⟩ 1 ∧
    IsDistance ⟨.es2020, true⟩ spiral build.entry build.entry 3 ∧
    build.dependencies.identities = [⟨"/a.ts"⟩, ⟨"/b.ts"⟩, ⟨"/c.ts"⟩, ⟨"/m.ts"⟩] ∧
    ((ofEntry ⟨.es2020, true⟩ spiral ⟨"m.ts"⟩).runFrom {}).2.log.newest.head? =
      some (completed 4 3) := by
  obtain ⟨build, built, entry, generations⟩ := spiral_built
  obtain ⟨-, levels, -, -, recorded, -, -, report⟩ := ofEntry_levels built
  rw [generations] at levels recorded report
  have count : build.dependencies.count = 4 := by
    rw [Dependencies.count, ← List.length_map, ← Dependencies.identities, recorded]
    rfl
  rw [count] at report
  refine ⟨build, built, (levels 0 _).mp (by decide), (levels 2 _).mp ?_, recorded, report⟩
  rw [entry]
  decide

end ScriptBundle.Build
