import ScriptBundle.Proofs.Build.Graphs
import ScriptBundle.Proofs.Rewriting.Blame

/-! How builds fail. The order of visits follows from what each module refers to when it is linked
alone; a build fails exactly when a module in this order cannot be linked, and the first one decides
the error, which names it. -/
namespace ScriptBundle.Build

variable {style : Script.Style} {disk : Disk} {entry : Identity}

/-- The modules known behind visits to the entry and to the given number of them, in the order of their
discovery. -/
def discovered (style : Script.Style) (disk : Disk) (entry : Identity) : Nat → List Identity
  | 0 => (references style disk entry).eraseDups
  | n + 1 =>
    let known := discovered style disk entry n
    (known ++ known[n]?.toList.flatMap (references style disk)).eraseDups

/-- The module that is visited at a position: first the entry, then what was discovered first. -/
def visitAt (style : Script.Style) (disk : Disk) (entry : Identity) : Nat → Option Identity
  | 0 => some entry
  | n + 1 => (discovered style disk entry n)[n]?

/-- Whether all modules that are visited before a position can be linked, and the one there fails. -/
structure FailsFirst (style : Script.Style) (disk : Disk) (entry : Identity) (n : Nat) (m : Identity)
    (e : BundleError) : Prop where
  visited : visitAt style disk entry n = some m
  failed : (link style disk m).alone = .error e
  before : ∀ k < n, ∃ earlier, visitAt style disk entry k = some earlier ∧
    (link style disk earlier).alone.isOk = true

theorem FailsFirst.unique {n n' : Nat} {m m' : Identity} {e e' : BundleError}
    (first : FailsFirst style disk entry n m e) (other : FailsFirst style disk entry n' m' e') :
    n = n' ∧ m = m' ∧ e = e' := by
  have notBefore {n n' : Nat} {m m' : Identity} {e e' : BundleError}
      (first : FailsFirst style disk entry n m e) (other : FailsFirst style disk entry n' m' e') :
      ¬n < n' := by
    intro lt
    obtain ⟨earlier, visited, ok⟩ := other.before n lt
    obtain rfl := Option.some.inj (visited.symm.trans first.visited)
    rw [first.failed] at ok
    cases ok
  have left := notBefore first other
  have right := notBefore other first
  obtain rfl : n = n' := by omega
  obtain rfl := Option.some.inj (first.visited.symm.trans other.visited)
  exact ⟨rfl, rfl, Except.error.inj (first.failed.symm.trans other.failed)⟩

section Reached

variable {visited : List Identity} {survey : Survey}

/-- What a run knows is what is discovered by its visits. -/
theorem Reached.discovered_eq (reached : Reached style disk entry visited survey) :
    discovered style disk entry visited.length = visited ++ survey.dependencies.pending := by
  induction reached with
  | entry linked =>
    have surveyed := Surveyed.ofEntry linked
    have found := surveyed.found
    rw [surveyed.pending, found]
    simp [discovered]
  | @visit visited survey identity waiting text outcome reached first linked ih =>
    have before := reached.surveyed.found
    have after := (Reached.visit reached first linked).surveyed.found
    rw [first] at before ih
    have next : (visited ++ identity :: waiting)[visited.length]? = some identity := by simp
    have known := Dependencies.fresh_eraseDups ((entry :: visited).flatMap (references style disk))
      (references style disk identity)
    have again := Dependencies.fresh_eraseDups (visited ++ identity :: waiting)
      (references style disk identity)
    rw [← before] at known
    rw [eraseDups_of_nodup (before ▸ nodup_eraseDups _), known] at again
    rw [after, List.length_append, List.length_singleton, discovered, ih, next]
    simpa using again.symm

/-- The modules that a run has visited come first in the order of visits. -/
theorem Reached.visitAt_eq (reached : Reached style disk entry visited survey) {k : Nat}
    (le : k ≤ visited.length) : visitAt style disk entry k = (entry :: visited)[k]? := by
  cases k with
  | zero => rfl
  | succ k =>
    induction reached with
    | entry linked => simp at le
    | @visit visited survey identity waiting text outcome reached first linked ih =>
      rw [List.length_append, List.length_singleton] at le
      by_cases early : k < visited.length
      · rw [ih early, List.getElem?_cons_succ, List.getElem?_cons_succ,
          List.getElem?_append_left early]
      · obtain rfl : k = visited.length := by omega
        rw [visitAt, reached.discovered_eq, first]
        simp

theorem Reached.visitAt_next (reached : Reached style disk entry visited survey) :
    visitAt style disk entry (visited.length + 1) = survey.dependencies.pending.head? := by
  rw [visitAt, reached.discovered_eq, List.getElem?_append_right (Nat.le_refl _), Nat.sub_self,
    List.head?_eq_getElem?]

theorem Reached.before (reached : Reached style disk entry visited survey) :
    ∀ k ≤ visited.length, ∃ earlier, visitAt style disk entry k = some earlier ∧
      (link style disk earlier).alone.isOk = true := by
  intro k le
  have inside : k < (entry :: visited).length := by simpa using Nat.lt_succ_of_le le
  obtain ⟨text, outcome, linked⟩ := reached.surveyed.linked _ (List.getElem_mem inside)
  refine ⟨(entry :: visited)[k], ?_, by rw [linked]; rfl⟩
  rw [reached.visitAt_eq le, List.getElem?_eq_getElem inside]

end Reached

/-- A run that fails stops at the first module that cannot be linked. -/
theorem Ending.failsFirst {visited : List Identity} {e : BundleError}
    (ending : Ending style disk entry visited (.error e)) :
    ∃ n m, FailsFirst style disk entry n m e := by
  cases ending with
  | entryFailed failed => exact ⟨0, entry, rfl, failed, by simp⟩
  | @failed visited survey identity waiting _ reached first failed =>
    refine ⟨visited.length + 1, identity, ?_, failed, fun k lt => ?_⟩
    · rw [reached.visitAt_next, first]
      rfl
    · exact reached.before k (by omega)

theorem Ending.not_failsFirst {visited : List Identity} {build : Build} {n : Nat} {m : Identity}
    {e : BundleError} (ending : Ending style disk entry visited (.ok build)) :
    ¬FailsFirst style disk entry n m e := by
  intro first
  cases ending with
  | @built text outcome generations last linked reached nothing nonempty =>
    have stop : visitAt style disk entry (generations.flatten.length + 1) = none := by
      rw [reached.visitAt_next, nothing]
      rfl
    by_cases early : n ≤ generations.flatten.length
    · obtain ⟨earlier, visited, ok⟩ := reached.before n early
      obtain rfl := Option.some.inj (visited.symm.trans first.visited)
      rw [first.failed] at ok
      cases ok
    by_cases last : n = generations.flatten.length + 1
    · rw [← last, first.visited] at stop
      cases stop
    · obtain ⟨earlier, visited, -⟩ := first.before (generations.flatten.length + 1) (by omega)
      rw [stop] at visited
      cases visited

/-- An error of linking a module names the module. -/
theorem blames_of_link {m : Identity} {e : BundleError}
    (failed : (link style disk m).alone = .error e) : e.Blames m := by
  have blames : Work.OnlyBlames m (link style disk m) := by
    unfold link
    cases disk.readText m with
    | error cause => exact .throw rfl
    | ok source => exact .rewriteSource style source
  exact blames {} e failed

/-- Modules that are discovered are referred to, so they were canonicalized. -/
theorem exists_canonicalize_of_visitAt {n : Nat} {m : Identity} {start : Path}
    (canonical : disk.canonicalize start = .ok entry)
    (visited : visitAt style disk entry n = some m) : ∃ path, disk.canonicalize path = .ok m := by
  have referred (n : Nat) : ∀ m ∈ discovered style disk entry n,
      ∃ source, m ∈ references style disk source := by
    induction n with
    | zero =>
      intro m member
      exact ⟨entry, List.mem_eraseDups.mp member⟩
    | succ n ih =>
      intro m member
      rw [discovered, List.mem_eraseDups, List.mem_append, List.mem_flatMap] at member
      obtain known | ⟨source, -, refers⟩ := member
      · exact ih m known
      · exact ⟨source, refers⟩
  cases n with
  | zero =>
    obtain rfl := Option.some.inj visited
    exact ⟨start, canonical⟩
  | succ n =>
    obtain ⟨source, refers⟩ := referred n m (List.mem_of_getElem? visited)
    obtain ⟨specifier, answered⟩ := (references_recorded style disk source).2 m refers
    unfold Resolution.answer at answered
    split at answered
    next identity found =>
      obtain rfl := Except.ok.inj answered
      obtain ⟨path, -, file⟩ := List.exists_of_findSome?_eq_some found
      exact ⟨path, ((disk.fileAt_eq_some_iff path _).mp file).2⟩
    next => cases answered

/-- The waiting modules of a run are reached from its entry. -/
theorem Reached.reachable_pending {visited waiting : List Identity} {survey : Survey} {m : Identity}
    (reached : Reached style disk entry visited survey)
    (first : survey.dependencies.pending = m :: waiting) :
    Relation.ReflTransGen (Refers style disk) entry m := by
  refine (reached.reachable ?_).to_reflTransGen
  rw [reached.surveyed.identities, first]
  simp

/-- A build whose entry exists fails exactly with the error of the first module, in the order of visits,
that cannot be linked alone; the error names this module by its canonical path. If the entry and all
modules that are reached from it can be linked, it succeeds. -/
theorem ofEntry_error_iff {start : Identity} {path : Path}
    (canonical : disk.canonicalize path = .ok start) (log : Log) :
    (∀ e, ((ofEntry style disk path).runFrom { log }).1 = .error e ↔
      ∃ n m, FailsFirst style disk start n m e) ∧
    (∀ n m e, FailsFirst style disk start n m e →
      e.Blames m ∧ ∃ spelling, disk.canonicalize spelling = .ok m) ∧
    ((∀ m, Relation.ReflTransGen (Refers style disk) start m →
        (link style disk m).alone.isOk = true) →
      ∃ build, ((ofEntry style disk path).runFrom { log }).1 = .ok build) := by
  obtain ⟨visited, ending, -⟩ := ofEntry_ending style canonical log
  refine ⟨fun e => ⟨fun failed => ?_, ?_⟩, ?_, fun linked => ?_⟩
  · rw [failed] at ending
    exact ending.failsFirst
  · rintro ⟨n, m, first⟩
    generalize ((ofEntry style disk path).runFrom { log }).1 = result at ending
    cases result with
    | ok build => exact absurd first ending.not_failsFirst
    | error e' =>
      obtain ⟨n', m', first'⟩ := ending.failsFirst
      rw [(first'.unique first).2.2]
  · intro n m e first
    exact ⟨blames_of_link first.failed, exists_canonicalize_of_visitAt canonical first.visited⟩
  · generalize ((ofEntry style disk path).runFrom { log }).1 = result at ending ⊢
    cases ending with
    | entryFailed failed =>
      have ok := linked start .refl
      rw [failed] at ok
      cases ok
    | failed reached first failed =>
      have ok := linked _ (reached.reachable_pending first)
      rw [failed] at ok
      cases ok
    | built => exact ⟨_, rfl⟩

/-- A disk with two modules that refer to missing ones, of which `b` is discovered before `c`. -/
def broken : Disk where
  entries := [(["m.ts"], .file "import './a';\nimport './b';".toUTF8),
    (["a.ts"], .file "import './c';".toUTF8),
    (["b.ts"], .file "require('./lost');".toUTF8),
    (["c.ts"], .file "require('./gone');".toUTF8),
    (["d.ts"], .file "".toUTF8)]
  workingDirectory := []

/-- The error is that of `b`, which is visited before `c`; without imports there is none. -/
theorem ofEntry_error_iff_broken :
    ((ofEntry ⟨.es2020, true⟩ broken ⟨"m.ts"⟩).runFrom {}).1 =
      .error (.resolution "./lost" ⟨"/b.ts"⟩) ∧
    (BundleError.resolution "./lost" ⟨"/b.ts"⟩).Blames ⟨"/b.ts"⟩ ∧
    ∃ build, ((ofEntry ⟨.es2020, true⟩ broken ⟨"d.ts"⟩).runFrom {}).1 = .ok build := by
  have fails : broken.canonicalize ⟨"m.ts"⟩ = .ok ⟨"/m.ts"⟩ := by decide
  have works : broken.canonicalize ⟨"d.ts"⟩ = .ok ⟨"/d.ts"⟩ := by decide
  have first : FailsFirst ⟨.es2020, true⟩ broken ⟨"/m.ts"⟩ 2 ⟨"/b.ts"⟩
      (.resolution "./lost" ⟨"/b.ts"⟩) := by
    have text : (link ⟨.es2020, true⟩ broken ⟨"/b.ts"⟩).alone.map (·.1) =
        .error (.resolution "./lost" ⟨"/b.ts"⟩) := by decide +kernel
    refine ⟨by decide +kernel, ?_, fun k lt => ?_⟩
    · cases linked : (link ⟨.es2020, true⟩ broken ⟨"/b.ts"⟩).alone <;> simp_all [Except.map]
    obtain rfl | rfl : k = 0 ∨ k = 1 := by omega
    · exact ⟨⟨"/m.ts"⟩, rfl, by decide +kernel⟩
    · exact ⟨⟨"/a.ts"⟩, by decide +kernel, by decide +kernel⟩
  obtain ⟨errors, blames, -⟩ := ofEntry_error_iff fails .empty
  obtain ⟨-, -, succeeds⟩ := ofEntry_error_iff works .empty
  refine ⟨(errors _).mpr ⟨_, _, first⟩, (blames _ _ _ first).1, succeeds fun m reached => ?_⟩
  have alone : references ⟨.es2020, true⟩ broken ⟨"/d.ts"⟩ = [] := by decide +kernel
  obtain rfl | ⟨target, refers, -⟩ := reached.cases_head
  · decide +kernel
  · rw [Refers, alone] at refers
    cases refers

end ScriptBundle.Build
