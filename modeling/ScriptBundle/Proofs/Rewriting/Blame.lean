import ScriptBundle.Proofs.Resolution.Memo
import ScriptBundle.Proofs.Rewriting.Steps

/-! Whom an error blames. A module that cannot be rewritten is named by the error, whatever was found
before: every step fails on behalf of the module that it works for. -/
namespace ScriptBundle

/-- Whether an error is one of reading, parsing or rewriting a module, and names it. -/
def BundleError.Blames (m : Path) : BundleError → Prop
  | .resolution _ importer => importer = m
  | .unsupportedSyntax module _ => module = m
  | .parse module _ => module = m
  | .io path _ => path = m
  | .incompleteDependency _ => False
  | .codegen _ _ => False

variable {α β : Type} {disk : Disk} {m : Path}

/-- Whether all errors of a step blame one module. -/
def Work.OnlyBlames (m : Path) (w : Work α) : Prop :=
  ∀ s e, (w.runFrom s).1 = .error e → e.Blames m

namespace Work.OnlyBlames

variable {w : Work α} {next : α → Work β}

theorem pure (a : α) : OnlyBlames m (pure a) := by
  rintro s e ⟨⟩

theorem throw {e : BundleError} (blamed : e.Blames m) : OnlyBlames m (throw e : Work α) := by
  rintro s e' failed
  cases failed
  exact blamed

theorem push (report : Report) : OnlyBlames m (modify (·.push report)) := by
  rintro s e ⟨⟩

theorem bind (first : OnlyBlames m w) (second : ∀ a, OnlyBlames m (next a)) :
    OnlyBlames m (w >>= next) := by
  intro s e failed
  rw [Work.runFrom_bind] at failed
  cases run : w.runFrom s with
  | mk result s' =>
    rw [run] at failed
    cases result with
    | error e' =>
      cases failed
      exact first s e (by rw [run])
    | ok a => exact second a s' e failed

/-- Only an answer that is searched for can be missing. -/
theorem resolve (disk : Disk) (specifier : String) (m : Path) :
    OnlyBlames m (Resolution.resolve disk specifier m) := by
  intro s e failed
  cases known : s.memo.get? (Resolution.directoryOf m) specifier with
  | some identity =>
    obtain ⟨log, run, -⟩ := Resolution.resolve_remembered disk known
    rw [run] at failed
    cases failed
  | none =>
    obtain ⟨log, run, -⟩ := Resolution.resolve_searched disk known
    rw [run, Resolution.answer] at failed
    split at failed
    · cases failed
    · cases failed
      rfl

end Work.OnlyBlames

namespace Rewriting

open Script

/-- Whether all errors of a step of rewriting blame one module, whatever was referred to before. -/
def OnlyBlames (m : Path) (r : Rewrite α) : Prop := ∀ o, Work.OnlyBlames m (r.run o)

namespace OnlyBlames

variable {r : Rewrite α} {next : α → Rewrite β}

theorem pure (a : α) : OnlyBlames m (Pure.pure a) := fun o => .pure (a, o)

theorem throw {e : BundleError} (blamed : e.Blames m) : OnlyBlames m (throw e : Rewrite α) :=
  fun _ => .throw blamed

theorem modify (f : Outcome → Outcome) : OnlyBlames m (modify f) := fun o => .pure ((), f o)

theorem bind (first : OnlyBlames m r) (second : ∀ a, OnlyBlames m (next a)) :
    OnlyBlames m (r >>= next) :=
  fun o => .bind (first o) fun (a, o') => second a o'

theorem lift {w : Work α} (blames : Work.OnlyBlames m w) : OnlyBlames m (liftM w) :=
  fun o => .bind blames fun a => .pure (a, o)

theorem sideBySide (disk : Disk) (m : Path) :
    SideBySide disk disk m fun r _ => OnlyBlames m r where
  pure := pure
  bind := bind
  refuse _ := throw rfl
  resolve specifier := lift (.resolve disk specifier m)
  report level text := lift (.push ⟨level, "reqless::rewriter", text⟩)
  modify := modify

theorem link (disk : Disk) (parsed : Module) : OnlyBlames m (link disk m parsed) :=
  (sideBySide disk m).link parsed

end OnlyBlames

end Rewriting

namespace Work.OnlyBlames

theorem rewriteSource (style : Script.Style) (source : String) :
    OnlyBlames m (rewriteSource style disk m source) := by
  have parsed : OnlyBlames m (liftM (parseModule m source) : Work Script.Module) := by
    unfold parseModule
    cases Script.Module.ofSource source with
    | error complaint => exact throw rfl
    | ok parsed => exact pure parsed
  exact bind parsed fun _ => bind (Rewriting.OnlyBlames.link disk _ {}) fun _ => pure _

end Work.OnlyBlames

end ScriptBundle
