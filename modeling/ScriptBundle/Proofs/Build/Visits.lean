import ScriptBundle.Build
import ScriptBundle.Proofs.Rewriting.Alone

/-! Visits one by one. What a visit finds depends on the disk and the module only, whatever was visited
before; so a visit changes a survey by what linking the module alone gives. -/
namespace ScriptBundle.Build

open Rewriting (Outcome)

variable {α β : Type} {style : Script.Style} {disk : Disk}

/-- The report of a visit. -/
def visiting (identity : Identity) : Report :=
  ⟨.trace, "reqless::graph_builder", "Visiting " ++ identity.quoted⟩

def isVisit (report : Report) : Bool := "Visiting ".toList.isPrefixOf report.text.toList

/-- The visits that a log reports, oldest first. -/
def visits (log : Log) : List Report := (log.about "reqless::graph_builder").filter isVisit

theorem visits_push (log : Log) (level : Level) (text : String) :
    visits (log.push ⟨level, "reqless::graph_builder", text⟩) = visits log ++
      if isVisit ⟨level, "reqless::graph_builder", text⟩ then
        [⟨level, "reqless::graph_builder", text⟩] else [] := by
  simp only [visits, Log.about_push, if_true, List.filter_append, List.filter_cons, List.filter_nil]

theorem isVisit_visiting (identity : Identity) : isVisit (visiting identity) = true := by
  simp [isVisit, visiting, String.toList_append]

/-- Other reports differ from those of visits in their first character. -/
theorem isVisit_eq_false {report : Report} (other : report.text.toList.head? ≠ some 'V') :
    isVisit report = false := by
  cases text : report.text.toList with
  | nil => simp [isVisit, text]
  | cons c rest =>
    have differ : 'V' ≠ c := by
      rintro rfl
      exact other (by rw [text]; rfl)
    simp [isVisit, text, List.isPrefixOf, differ]

/-- What a step among the visits does with a survey if the memo is truthful, and which modules it
visits. -/
def Ends (disk : Disk) (step : Visit α) (survey : Survey) (visited : List Identity)
    (result : Except BundleError (α × Survey)) : Prop :=
  ∀ s : Session, s.memo.Truthful disk → ∃ s', (step.run survey).runFrom s = (result, s') ∧
    s'.memo.Truthful disk ∧ visits s'.log = visits s.log ++ visited.map visiting

namespace Ends

variable {step : Visit α} {next : α → Visit β} {survey middle : Survey}
  {visited others : List Identity} {a : α}

theorem pure (a : α) (survey : Survey) : Ends disk (Pure.pure a) survey [] (.ok (a, survey)) :=
  fun s truthful => ⟨s, rfl, truthful, by simp⟩

theorem get (survey : Survey) : Ends disk MonadState.get survey [] (.ok (survey, survey)) :=
  fun s truthful => ⟨s, rfl, truthful, by simp⟩

theorem modify (f : Survey → Survey) (survey : Survey) :
    Ends disk (modify f) survey [] (.ok ((), f survey)) :=
  fun s truthful => ⟨s, rfl, truthful, by simp⟩

theorem set (survey survey' : Survey) :
    Ends disk (MonadStateOf.set survey') survey [] (.ok ((), survey')) :=
  fun s truthful => ⟨s, rfl, truthful, by simp⟩

/-- A report that is not one of a visit. -/
theorem report {level : Level} {text : String} (other : text.toList.head? ≠ some 'V')
    (survey : Survey) : Ends disk (Build.report level text) survey [] (.ok ((), survey)) := by
  intro s truthful
  refine ⟨_, rfl, truthful, ?_⟩
  simp [Session.push, visits_push, isVisit_eq_false, other]

theorem reportVisit (identity : Identity) (survey : Survey) :
    Ends disk (Build.report .trace ("Visiting " ++ identity.quoted)) survey [identity]
      (.ok ((), survey)) := by
  intro s truthful
  refine ⟨_, rfl, truthful, ?_⟩
  have visit := isVisit_visiting identity
  simp only [visiting] at visit
  simp [Session.push, visits_push, visit, visiting]

theorem bind {result : Except BundleError (β × Survey)}
    (first : Ends disk step survey visited (.ok (a, middle)))
    (second : Ends disk (next a) middle others result) :
    Ends disk (step >>= next) survey (visited ++ others) result := by
  intro s truthful
  obtain ⟨s', run, truthful', seen⟩ := first s truthful
  obtain ⟨s'', run', truthful'', seen'⟩ := second s' truthful'
  refine ⟨s'', ?_, truthful'', ?_⟩
  · rw [StateT.run_bind, Work.runFrom_bind, run]
    exact run'
  · rw [seen', seen, List.map_append, List.append_assoc]

/-- Nothing is visited by the first step. -/
theorem silent_bind {result : Except BundleError (β × Survey)}
    (first : Ends disk step survey [] (.ok (a, middle)))
    (second : Ends disk (next a) middle visited result) :
    Ends disk (step >>= next) survey visited result :=
  bind first second

/-- Nothing is visited by the second step. -/
theorem bind_silent {result : Except BundleError (β × Survey)}
    (first : Ends disk step survey visited (.ok (a, middle)))
    (second : Ends disk (next a) middle [] result) :
    Ends disk (step >>= next) survey visited result := by
  rw [← List.append_nil visited]
  exact bind first second

theorem bind_error {e : BundleError} (first : Ends disk step survey visited (.error e)) :
    Ends disk (step >>= next) survey visited (.error e) := by
  intro s truthful
  obtain ⟨s', run, truthful', seen⟩ := first s truthful
  refine ⟨s', ?_, truthful', seen⟩
  rw [StateT.run_bind, Work.runFrom_bind, run]

/-- A steady step reports no visits and leaves the survey. -/
theorem lift {w : Work α} (steady : Steady disk w) (survey : Survey) :
    Ends disk (liftM w) survey [] (w.alone.map (·, survey)) := by
  intro s truthful
  have same := steady.result s truthful
  have quiet := steady.log s truthful "reqless::graph_builder" (by decide)
  refine ⟨(w.runFrom s).2, ?_, steady.memo s truthful, ?_⟩
  · rw [← same]
    change (w >>= fun a => (Pure.pure (a, survey) : Work (α × Survey))).runFrom s = _
    rw [Work.runFrom_bind]
    cases w.runFrom s with
    | mk r s' => cases r <;> rfl
  · simp [visits, quiet]

end Ends

/-- The survey behind a visit to a module with what linking it found. -/
def absorb (survey : Survey) (identity : Identity) (outcome : Outcome) : Survey where
  dependencies := outcome.dependencies.foldl .discover survey.dependencies
  graph := outcome.dependencies.foldl (·.addDependency identity ·) (survey.graph.addModule identity).1
  warnings := survey.warnings ++ outcome.warnings

theorem recordReference_ends (source target : Identity) (survey : Survey) :
    Ends disk (recordReference source target) survey [] (.ok ((),
      { survey with
        dependencies := survey.dependencies.discover target
        graph := survey.graph.addDependency source target })) := by
  unfold recordReference
  refine .bind (.get survey) ?_
  dsimp only
  split_ifs with known
  · exact .set survey _
  · exact .bind (.report (by simp) survey) (.set survey _)

theorem recordReferences_ends (source : Identity) (targets : List Identity) (survey : Survey) :
    Ends disk (targets.forM (recordReference source)) survey [] (.ok ((),
      { survey with
        dependencies := targets.foldl .discover survey.dependencies
        graph := targets.foldl (·.addDependency source ·) survey.graph })) := by
  induction targets generalizing survey with
  | nil => exact .pure () survey
  | cons target rest ih => exact .bind (recordReference_ends source target survey) (ih _)

theorem link_steady (style : Script.Style) (disk : Disk) (identity : Identity) :
    Steady disk (link style disk identity) := by
  unfold link
  cases disk.readText identity with
  | error cause => exact .throw _
  | ok source => exact .rewriteSource style identity source

/-- A visit changes a survey by what linking the module alone gives. -/
theorem visit_ends (style : Script.Style) (disk : Disk) (identity : Identity) (survey : Survey) :
    Ends disk (visit style disk identity) survey [identity]
      ((link style disk identity).alone.map fun found =>
        (found.1, absorb survey identity found.2)) := by
  unfold visit
  refine .bind_silent (.reportVisit identity survey) ?_
  have linked := Ends.lift (link_steady style disk identity) survey
  cases run : (link style disk identity).alone with
  | error e =>
    rw [run] at linked
    exact .bind_error linked
  | ok found =>
    obtain ⟨text, outcome⟩ := found
    rw [run] at linked
    exact .bind linked (.bind (.modify _ _) (.bind (recordReferences_ends identity _ _)
      (.bind (.modify _ _) (.bind (.get _)
        (.bind (.report (by simp [Path.quoted, Text.quoted]) _) (.pure text _))))))

/-- The survey behind a visit to a known module. -/
def settle (survey : Survey) (identity : Identity) (text : String) (outcome : Outcome) : Survey :=
  { absorb survey identity outcome with
    dependencies := (absorb survey identity outcome).dependencies.complete identity text }

theorem visitDependency_ends (style : Script.Style) (disk : Disk) (identity : Identity)
    (survey : Survey) :
    Ends disk (visitDependency style disk identity) survey [identity]
      ((link style disk identity).alone.map fun found =>
        ((), settle survey identity found.1 found.2)) := by
  have visited := visit_ends style disk identity survey
  unfold visitDependency
  cases run : (link style disk identity).alone with
  | error e =>
    rw [run] at visited
    exact .bind_error visited
  | ok found =>
    rw [run] at visited
    exact .bind_silent visited (.modify _ _)

end ScriptBundle.Build
