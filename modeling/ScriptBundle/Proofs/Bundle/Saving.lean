import ScriptBundle.Proofs.Build.Failing
import ScriptBundle.Proofs.Bundle.Making
import ScriptBundle.Proofs.Disk.Changes

/-! Bundles in files. Everything is read before anything is written: a run that fails has changed no
file, and one that succeeds has written the text that would have been printed, even over a module that
it bundled. -/
namespace ScriptBundle

variable {α β : Type}

namespace Task

open Reporting (Gives)

/-- The result of a step on a disk behind some reports, and the disk behind the step. -/
def outcome (task : Task α) (disk : Disk) (log : Log) : Except Failure α × Disk :=
  (((ExceptT.run task).run disk).run log).1

/-- A step ends in one way on a disk, whatever was reported before. -/
def Ends (task : Task α) (disk : Disk) (result : Except Failure α) (after : Disk) : Prop :=
  ∀ log, task.outcome disk log = (result, after)

namespace Ends

variable {disk middle after : Disk}

theorem getThe (disk : Disk) : Ends (getThe Disk) disk (.ok disk) disk := fun _ => rfl

theorem ofReporting {step : Reporting α} {result : Except Failure α} (gives : Gives step result) :
    Ends (Task.ofReporting step) disk result disk := by
  intro log
  rw [← gives log]
  rfl

theorem report (topic : String) (level : Level) (text : String) (disk : Disk) :
    Ends (Task.report topic level text) disk (.ok ()) disk := fun _ => rfl

/-- Behind a first step, the next one runs on the disk that the first leaves, or the error stays. -/
theorem outcome_bind {task : Task α} {first : Except Failure α}
    (ends : Ends task disk first middle) (next : α → Task β) (log : Log) :
    ∃ log', (task >>= next).outcome disk log = match first with
      | .ok a => (next a).outcome middle log'
      | .error f => (.error f, middle) := by
  have here := ends log
  simp only [outcome, ExceptT.run_bind, StateT.run_bind] at here ⊢
  change ∃ log', (match ((ExceptT.run task).run disk).run log with
    | (r, log') => _ : (Except Failure β × Disk) × Log).1 = _
  cases run : ((ExceptT.run task).run disk).run log with
  | mk r log' =>
    rw [run] at here
    subst here
    exact ⟨log', by cases first <;> rfl⟩

theorem bind {task : Task α} {next : α → Task β} {result : Except Failure β} {a : α}
    (first : Ends task disk (.ok a) middle) (second : Ends (next a) middle result after) :
    Ends (task >>= next) disk result after := by
  intro log
  obtain ⟨log', run⟩ := first.outcome_bind next log
  exact run.trans (second log')

theorem bind_error {task : Task α} {next : α → Task β} {f : Failure}
    (first : Ends task disk (.error f) after) : Ends (task >>= next) disk (.error f) after := by
  intro log
  obtain ⟨_, run⟩ := first.outcome_bind next log
  exact run

theorem change (context : String) (c : Disk.Change Unit) (disk : Disk) :
    Ends (Task.change context c) disk
      (((ExceptT.run c).run disk).1.mapError fun cause => .within context (.fault cause))
      ((ExceptT.run c).run disk).2 := by
  intro log
  have got : StateT.run (StateT.run (ExceptT.run (MonadStateOf.get : Task Disk)) disk) log =
      pure ((.ok disk, disk), log) := rfl
  simp only [outcome, Task.change, ExceptT.run_bind, StateT.run_bind, got, pure_bind]
  cases StateT.run (ExceptT.run c) disk with
  | mk r d => cases r <;> rfl

end Ends

end Task

namespace Disk

theorem writeText_run (d : Disk) (p : Path) (text : String) : (ExceptT.run (writeText p text)).run d =
    match d.writeBytes p text.toUTF8 with
    | .ok d' => (.ok (), d')
    | .error fault => (.error fault, d) := by
  change StateT.run (ExceptT.run (match d.writeBytes p text.toUTF8 with
    | .ok d' => (set d' : Change Unit)
    | .error fault => throw fault)) d = _
  cases d.writeBytes p text.toUTF8 <;> rfl

/-- What saving a text may come to: new directories at most if it fails, and else the text in the file
that the path leads to, and new directories at most elsewhere. -/
def Saves (d : Disk) (output : Path) (text : String) (d' : Disk) : Except Failure Unit → Prop
  | .error _ => d.GainsDirectories d'
  | .ok () => ∃ place, d'.locate output = .ok place ∧ d'.entry? place = some (.file text.toUTF8) ∧
      ∀ other, other ≠ place → KeptOrMade (d.entry? other) (d'.entry? other)

theorem Saves.behind {d middle d' : Disk} {output : Path} {text : String}
    {result : Except Failure Unit} (gains : d.GainsDirectories middle)
    (saves : middle.Saves output text d' result) : d.Saves output text d' result := by
  cases result with
  | error f => exact gains.trans saves
  | ok =>
    obtain ⟨place, located, file, others⟩ := saves
    exact ⟨place, located, file, fun other differ => (gains.entries other).trans (others other differ)⟩

end Disk

namespace Bundle

open Reporting (Gives)
open ScriptBundle.Task (Ends)

theorem write_ends (output : Path) (text : String) (disk : Disk) : ∃ result after,
    Ends (Task.change ("Failed to write output file: " ++ output.quoted)
      (Disk.writeText output text)) disk result after ∧ disk.Saves output text after result := by
  refine ⟨_, _, .change _ _ disk, ?_⟩
  rw [Disk.writeText_run]
  cases written : disk.writeBytes output text.toUTF8 with
  | error cause => exact .refl disk
  | ok after =>
    obtain ⟨place, reached, writable, rfl⟩ := Disk.writeBytes_ok written
    have filled : place ≠ [] := Disk.ne_nil_of_entry? writable
    exact ⟨place, Disk.locate_put writable reached, Disk.entry?_put filled _,
      fun other differ => .inl (Disk.entry?_put_ne differ _)⟩

theorem save_ends (output : Path) (text : String) (disk : Disk) : ∃ result after,
    Ends (save output text) disk result after ∧ disk.Saves output text after result := by
  unfold save
  cases output.parent?.filter (·.text ≠ "") with
  | none =>
    obtain ⟨result, after, ends, saves⟩ := write_ends output text disk
    exact ⟨result, after, ends, saves⟩
  | some directory =>
    have gains := Disk.Change.OnlyAdds.makeDirectories directory disk
    have first := Ends.change ("Failed to create output directory: " ++ directory.quoted)
      (Disk.makeDirectories directory) disk
    cases made : ((ExceptT.run (Disk.makeDirectories directory)).run disk).1 with
    | error cause =>
      rw [made] at first
      exact ⟨_, _, .bind_error first, gains⟩
    | ok =>
      rw [made] at first
      obtain ⟨result, after, ends, saves⟩ := write_ends output text _
      exact ⟨result, after, .bind first ends, saves.behind gains⟩

theorem toFile_failed {settings : Settings} {disk : Disk} {entry : Path} {f : Failure}
    (failed : made settings disk entry = .error f) (output : Path) :
    Ends (toFile settings entry output) disk (.error f) disk := by
  have making := make_gives settings disk entry
  rw [failed] at making
  refine .bind (.report _ _ _ _) (.bind (.report _ _ _ _) ?_)
  exact .bind (.getThe disk) (.bind_error (.ofReporting making))

theorem toFile_saved {settings : Settings} {disk after : Disk} {entry output : Path} {bundle : Bundle}
    {result : Except Failure Unit} (succeeded : made settings disk entry = .ok bundle)
    (saved : Ends (save output bundle.code) disk result after) :
    Ends (toFile settings entry output) disk result after := by
  have making := make_gives settings disk entry
  rw [succeeded] at making
  refine .bind (.report _ _ _ _) (.bind (.report _ _ _ _) ?_)
  refine .bind (.getThe disk) (.bind (.ofReporting making) ?_)
  cases result with
  | error f => exact .bind_error saved
  | ok => exact .bind saved (.report _ _ _ _)

/-- Writing a bundle to a file never leaves a part of it. If making the bundle fails, so does the run,
and the disk is as before; if the run fails later, directories were added at most; and if it succeeds,
the file that the output path leads to has the text that is printed otherwise, made from the disk as it
was before, and no other file is touched, whatever the output path meant before. -/
theorem toFile_whole (settings : Settings) (entry output : Path) (disk : Disk) (log : Log) :
    (∀ f log', (make settings disk entry).result log' = .error f →
      (toFile settings entry output).outcome disk log = (.error f, disk)) ∧
    (∀ f after, (toFile settings entry output).outcome disk log = (.error f, after) →
      disk.GainsDirectories after) ∧
    ∀ after, (toFile settings entry output).outcome disk log = (.ok (), after) →
      ∃ text place, Gives (toText settings disk entry) (.ok text) ∧
        after.locate output = .ok place ∧ after.entry? place = some (.file text.toUTF8) ∧
        ∀ other, other ≠ place → after.entry? other = disk.entry? other ∨
          disk.entry? other = none ∧ after.entry? other = some .directory := by
  have printed := toText_gives settings disk entry
  cases result : made settings disk entry with
  | error f =>
    have ends := toFile_failed result output log
    rw [ends]
    refine ⟨fun f' log' failed => ?_, fun f' after ended => ?_, fun after ended => ?_⟩
    · rw [make_gives settings disk entry log', result] at failed
      rw [Except.error.inj failed]
    · rw [← (Prod.mk.inj ended).2]
      exact .refl disk
    · cases (Prod.mk.inj ended).1
  | ok bundle =>
    rw [result] at printed
    obtain ⟨ending, after, saved, saves⟩ := save_ends output bundle.code disk
    have ends := toFile_saved result saved log
    rw [ends]
    refine ⟨fun f log' failed => ?_, fun f after' ended => ?_, fun after' ended => ?_⟩
    · rw [make_gives settings disk entry log', result] at failed
      cases failed
    · obtain ⟨rfl, rfl⟩ := Prod.mk.inj ended
      exact saves
    · obtain ⟨rfl, rfl⟩ := Prod.mk.inj ended
      obtain ⟨place, located, file, others⟩ := saves
      exact ⟨bundle.code, place, printed, located, file, others⟩

/-- A bundle that is written over its entry, one that cannot be made, and one that cannot be written
because its output path leads through a file. -/
theorem toFile_whole_mirror : (∃ text after,
    (toFile {} ⟨"m.ts"⟩ ⟨"m.ts"⟩).outcome Build.mirror .empty = (.ok (), after) ∧
    Gives (toText {} Build.mirror ⟨"m.ts"⟩) (.ok text) ∧
    after.entry? ["m.ts"] = some (.file text.toUTF8) ∧
    after.entry? ["a.ts"] = Build.mirror.entry? ["a.ts"]) ∧
    (toFile {} ⟨"m.ts"⟩ ⟨"out/b.js"⟩).outcome Build.broken .empty =
      (.error (.within "Failed to bundle \"m.ts\"" (.bundle (.resolution "./lost" ⟨"/b.ts"⟩))),
        Build.broken) ∧
    ∃ f after, (toFile {} ⟨"m.ts"⟩ ⟨"m.ts/b.js"⟩).outcome Build.mirror .empty =
      (.error f, after) ∧ Build.mirror.GainsDirectories after := by
  refine ⟨?_, ?_, ?_⟩
  · have ran : ((toFile {} ⟨"m.ts"⟩ ⟨"m.ts"⟩).outcome Build.mirror .empty).map id (·.locate ⟨"m.ts"⟩) =
        (.ok (), .ok ["m.ts"]) := by decide +kernel
    obtain ⟨ended, here⟩ := Prod.mk.inj ran
    obtain ⟨-, -, saved⟩ := toFile_whole {} ⟨"m.ts"⟩ ⟨"m.ts"⟩ Build.mirror .empty
    obtain ⟨text, place, printed, located, file, others⟩ := saved _ (Prod.ext ended rfl)
    obtain rfl : place = ["m.ts"] := Except.ok.inj (located.symm.trans here)
    refine ⟨text, _, Prod.ext ended rfl, printed, file, ?_⟩
    obtain kept | ⟨missing, -⟩ := others ["a.ts"] (by decide)
    · exact kept
    · exact absurd missing (by decide)
  · have failed : ((make {} Build.broken ⟨"m.ts"⟩).result .empty).map (·.code) =
        .error (.within "Failed to bundle \"m.ts\"" (.bundle (.resolution "./lost" ⟨"/b.ts"⟩))) := by
      decide +kernel
    obtain ⟨unmade, -⟩ := toFile_whole {} ⟨"m.ts"⟩ ⟨"out/b.js"⟩ Build.broken .empty
    refine unmade _ .empty ?_
    cases run : (make {} Build.broken ⟨"m.ts"⟩).result .empty with
    | error f =>
      rw [run] at failed
      exact congrArg _ (Except.error.inj failed)
    | ok bundle =>
      rw [run] at failed
      cases failed
  · have ended : ((toFile {} ⟨"m.ts"⟩ ⟨"m.ts/b.js"⟩).outcome Build.mirror .empty).1 =
        .error (.within "Failed to create output directory: \"m.ts\"" (.fault .alreadyExists)) := by
      decide +kernel
    obtain ⟨-, unsaved, -⟩ := toFile_whole {} ⟨"m.ts"⟩ ⟨"m.ts/b.js"⟩ Build.mirror .empty
    exact ⟨_, _, Prod.ext ended rfl, unsaved _ _ (Prod.ext ended rfl)⟩

end Bundle

end ScriptBundle
