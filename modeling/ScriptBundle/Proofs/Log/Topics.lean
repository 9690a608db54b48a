import ScriptBundle.Log

/-! Reports by topic. A step that reports on one topic leaves the reports on all others as they were,
and what it yields does not depend on them. -/
namespace ScriptBundle

namespace Log

/-- The reports on a topic, oldest first. -/
def about (log : Log) (topic : String) : List Report := log.toList.filter (·.topic = topic)

theorem about_push (log : Log) (report : Report) (topic : String) :
    (log.push report).about topic =
      log.about topic ++ if report.topic = topic then [report] else [] := by
  simp only [about, toList, push, List.reverse_cons, List.filter_append, List.filter_cons,
    List.filter_nil, decide_eq_true_eq]

/-- Whether a log differs from an earlier one at most in reports on given topics. -/
def GrowsIn (topics : List String) (before after : Log) : Prop :=
  ∀ other ∉ topics, after.about other = before.about other

theorem GrowsIn.refl (topics : List String) (log : Log) : GrowsIn topics log log := fun _ _ => rfl

theorem GrowsIn.trans {topics : List String} {first second third : Log}
    (early : GrowsIn topics first second) (late : GrowsIn topics second third) :
    GrowsIn topics first third :=
  fun other apart => (late other apart).trans (early other apart)

theorem GrowsIn.push {topics : List String} (log : Log) {report : Report}
    (on : report.topic ∈ topics) : GrowsIn topics log (log.push report) := by
  intro other apart
  have different : report.topic ≠ other := fun same => apart (same ▸ on)
  rw [about_push, if_neg different, List.append_nil]

end Log

variable {α β : Type} {topics : List String}

/-- A step that yields a value whatever was reported before, and reports on given topics. -/
def Yields (topics : List String) (step : StateM Log α) (value : α) : Prop :=
  ∀ log, ∃ log', step.run log = (value, log') ∧ log.GrowsIn topics log'

namespace Yields

theorem pure (value : α) : Yields topics (Pure.pure value) value :=
  fun log => ⟨log, rfl, .refl _ _⟩

theorem push {report : Report} (on : report.topic ∈ topics) :
    Yields topics (modify (·.push report)) () :=
  fun log => ⟨log.push report, rfl, .push log on⟩

theorem bind {step : StateM Log α} {next : α → StateM Log β} {a : α} {b : β}
    (first : Yields topics step a) (second : Yields topics (next a) b) :
    Yields topics (step >>= next) b := by
  intro log
  obtain ⟨middle, run, early⟩ := first log
  obtain ⟨last, run', late⟩ := second middle
  refine ⟨last, ?_, early.trans late⟩
  rw [StateT.run_bind, run]
  exact run'

end Yields

end ScriptBundle
