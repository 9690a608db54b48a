import ScriptBundle.Bundle
import ScriptBundle.Proofs.Build.Runs

/-! The making of a bundle as a value. Reports decide nothing, so settings, disk and entry give one
result, whatever was reported before. -/
namespace ScriptBundle

variable {α β : Type}

namespace Reporting

/-- The result of a step behind some reports. -/
def result (step : Reporting α) (log : Log) : Except Failure α := ((ExceptT.run step).run log).1

/-- A step has one result, whatever was reported before. -/
def Gives (step : Reporting α) (result : Except Failure α) : Prop := ∀ log, step.result log = result

namespace Gives

theorem pure (a : α) : Gives (Pure.pure a) (.ok a) := fun _ => rfl

theorem ofExcept (result : Except Failure α) : Gives (liftM result) result := by
  intro log
  cases result <;> rfl

theorem reporting {step : Reporting α} {result : Except Failure α} {topic : String} {level : Level}
    {text : String} (next : Gives step result) :
    Gives (do Reporting.report topic level text; step) result := fun log => next (log.push _)

theorem bind {step : Reporting α} {next : α → Reporting β} {result : Except Failure α}
    {results : α → Except Failure β} (first : Gives step result)
    (second : ∀ a, Gives (next a) (results a)) : Gives (step >>= next) (result >>= results) := by
  intro log
  have here := first log
  simp only [Reporting.result, ExceptT.run_bind, StateT.run_bind] at here ⊢
  change (match (ExceptT.run step).run log with | (r, log') => _ : Except Failure β × Log).1 = _
  cases run : (ExceptT.run step).run log with
  | mk r log' =>
    rw [run] at here
    subst here
    cases r with
    | error f => rfl
    | ok a => exact second a log'

/-- A step that only reports has the value that it has for itself. -/
theorem lift_bind {step : StateM Log α} {next : α → Reporting β} {a : α} {result : Except Failure β}
    (same : ∀ log, (step.run log).1 = a) (after : Gives (next a) result) :
    Gives (liftM step >>= next) result := by
  intro log
  change ((ExceptT.run (next (step.run log).1)).run (step.run log).2).1 = result
  rw [same log]
  exact after (step.run log).2

theorem ofWork {work : Work α} {result : Except BundleError α} (context : String)
    (gives : ∀ log, (work.runFrom { log }).1 = result) :
    Gives (Reporting.ofWork context work)
      (result.mapError fun e => .within context (.bundle e)) := by
  intro log
  have got : StateT.run (ExceptT.run (get : Reporting Log)) log = Pure.pure (.ok log, log) := rfl
  rw [← gives log, Work.runFrom]
  simp only [Reporting.result, Reporting.ofWork, ExceptT.run_bind, StateT.run_bind, got, pure_bind]
  cases StateT.run (ExceptT.run work) { log } with
  | mk r s => cases r <;> rfl

end Gives

end Reporting

namespace Bundle

open Reporting (Gives)

/-- The bundle of an entry, or why there is none. -/
def made (settings : Settings) (disk : Disk) (entry : Path) : Except Failure Bundle := do
  let edition ← settings.edition
  let build ← (Build.ofEntry ⟨edition, settings.minify⟩ disk entry).alone.mapError fun e =>
    .within ("Failed to bundle " ++ entry.quoted) (.bundle e)
  let code ← (assemble settings.instantiation settings.minify build.entrySource
    build.dependencies).mapError fun e => .within "Failed to assemble bundle" (.bundle e)
  return { code, warnings := build.warnings }

theorem make_gives (settings : Settings) (disk : Disk) (entry : Path) :
    Gives (make settings disk entry) (made settings disk entry) := by
  refine .reporting (.bind (.ofExcept settings.edition) fun edition => .reporting ?_)
  refine .bind (.ofWork _ (Build.ofEntry_alone _ disk entry)) fun build => .reporting ?_
  cases assemble settings.instantiation settings.minify build.entrySource build.dependencies with
  | error e => exact .ofExcept _
  | ok code => exact .reporting (.pure _)

theorem toText_gives (settings : Settings) (disk : Disk) (entry : Path) :
    Gives (toText settings disk entry) ((made settings disk entry).map (·.code)) := by
  refine .reporting ?_
  have given := Gives.bind (make_gives settings disk entry) fun bundle => .pure bundle.code
  cases result : made settings disk entry <;> rw [result] at given <;> exact given

end Bundle

end ScriptBundle
