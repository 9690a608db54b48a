import ScriptBundle.Proofs.Resolution.Memo
import ScriptBundle.Proofs.Rewriting.Steps

/-! Rewriting depends on the disk and the module only. No step of it looks at what was found or
reported before, except through resolution, so a module is rewritten among others as it is rewritten
alone. -/
namespace ScriptBundle

namespace Rewriting

open Script

variable {α β : Type} {disk : Disk}

/-- A step of rewriting that is steady, whatever was referred to so far. -/
def Steady (disk : Disk) (r : Rewrite α) : Prop := ∀ o, ScriptBundle.Steady disk (r.run o)

namespace Steady

theorem pure (a : α) : Steady disk (Pure.pure a) := fun o => .pure (a, o)

theorem throw (e : BundleError) : Steady disk (throw e : Rewrite α) := fun _ => .throw e

theorem modify (f : Outcome → Outcome) : Steady disk (modify f) := fun o => .pure ((), f o)

theorem bind {r : Rewrite α} {next : α → Rewrite β} (first : Steady disk r)
    (second : ∀ a, Steady disk (next a)) : Steady disk (r >>= next) :=
  fun o => .bind (first o) fun (a, o') => second a o'

theorem map {r : Rewrite α} (first : Steady disk r) (f : α → β) :
    Steady disk (do return f (← r)) :=
  .bind first fun a => .pure (f a)

theorem lift {w : Work α} (steady : ScriptBundle.Steady disk w) : Steady disk (liftM w) :=
  fun o => .bind steady fun a => .pure (a, o)

theorem report (level : Level) (text : String) : Steady disk (report level text) :=
  lift (.push (by simp))

theorem sideBySide (disk : Disk) (importer : Path) :
    SideBySide disk disk importer fun r _ => Steady disk r where
  pure := pure
  bind := bind
  refuse _ := throw _
  resolve specifier := lift (.resolve disk specifier importer)
  report := report
  modify := modify

theorem redirects (importer : Path) : (∀ n, Steady disk (redirect disk importer n)) ∧
    ∀ ns, Steady disk (redirectAll disk importer ns) :=
  (sideBySide disk importer).redirects

theorem link (importer : Path) (m : Module) : Steady disk (link disk importer m) :=
  (sideBySide disk importer).link m

end Steady

/-- A steady step whose value and outcome, if it succeeds alone, are as a condition on them and on the
outcome before demands. -/
structure Ensures (disk : Disk) (r : Rewrite α) (post : Outcome → α → Outcome → Prop) : Prop where
  steady : Steady disk r
  result : ∀ o a o', (r.run o).alone = .ok (a, o') → post o a o'

namespace Ensures

variable {r : Rewrite α} {next : α → Rewrite β} {post mid : Outcome → α → Outcome → Prop}
  {after : α → Outcome → β → Outcome → Prop} {last : Outcome → β → Outcome → Prop}

theorem pure (a : α) : Ensures disk (Pure.pure a) fun o a' o' => a' = a ∧ o' = o := by
  refine ⟨.pure a, ?_⟩
  rintro o a' o' ⟨⟩
  exact ⟨rfl, rfl⟩

theorem throw (e : BundleError) : Ensures disk (throw e : Rewrite α) post := by
  refine ⟨.throw e, ?_⟩
  rintro o a o' ⟨⟩

theorem bind (first : Ensures disk r mid) (second : ∀ a, Ensures disk (next a) (after a))
    (both : ∀ o a o' b o'', mid o a o' → after a o' b o'' → last o b o'') :
    Ensures disk (r >>= next) last := by
  refine ⟨.bind first.steady fun a => (second a).steady, ?_⟩
  intro o b o'' run
  rw [StateT.run_bind, (first.steady o).alone_bind fun m => (second m.1).steady m.2] at run
  cases before : (r.run o).alone with
  | error e =>
    rw [before] at run
    cases run
  | ok middle =>
    rw [before] at run
    exact both o _ _ b o'' (first.result o _ _ before) ((second middle.1).result _ b o'' run)

theorem weaken (first : Ensures disk r mid) (enough : ∀ o a o', mid o a o' → post o a o') :
    Ensures disk r post :=
  ⟨first.steady, fun o a o' run => enough o a o' (first.result o a o' run)⟩

theorem lift {w : Work α} {holds : α → Prop} (steady : ScriptBundle.Steady disk w)
    (result : ∀ a, w.alone = .ok a → holds a) :
    Ensures disk (liftM w) fun o a o' => o' = o ∧ holds a := by
  refine ⟨.lift steady, ?_⟩
  intro o a o' run
  change (w >>= fun a => (Pure.pure (a, o) : Work (α × Outcome))).alone = .ok (a, o') at run
  rw [steady.alone_bind fun a => .pure (a, o)] at run
  cases value : w.alone with
  | error e =>
    rw [value] at run
    cases run
  | ok a' =>
    rw [value] at run
    cases run
    exact ⟨rfl, result _ value⟩

theorem map (first : Ensures disk r mid) (f : α → β) :
    Ensures disk (do return f (← r)) fun o b o' => ∃ a, b = f a ∧ mid o a o' := by
  refine .bind first (fun a => .pure (f a)) ?_
  rintro o a o' _ _ done ⟨rfl, rfl⟩
  exact ⟨a, rfl, done⟩

theorem modifying {post : Outcome → α → Outcome → Prop} (f : Outcome → Outcome)
    (next : Ensures disk r mid) (through : ∀ o a o', mid (f o) a o' → post o a o') :
    Ensures disk (do modify f; r) post := by
  have first : Ensures disk (modify f) fun o _ o' => o' = f o := by
    refine ⟨.modify f, ?_⟩
    rintro o a o' ⟨⟩
    rfl
  refine .bind first (fun _ => next) ?_
  rintro o _ _ a o' rfl second
  exact through o a o' second

theorem reporting {level : Level} {text : String} (next : Ensures disk r post) :
    Ensures disk (do Rewriting.report level text; r) post := by
  have first : Ensures disk (Rewriting.report level text) fun o _ o' => o' = o := by
    refine ⟨.report level text, ?_⟩
    rintro o a o' ⟨⟩
    rfl
  refine .bind first (fun _ => next) ?_
  rintro o _ _ a o' rfl second
  exact second

theorem reportingAll {names : List String} {level : Level} {text : String → String}
    (next : Ensures disk r post) :
    Ensures disk (do names.forM fun name => Rewriting.report level (text name); r) post := by
  induction names with
  | nil => exact next
  | cons name rest ih =>
    rw [List.forM, bind_assoc]
    exact .reporting ih

end Ensures

end Rewriting

namespace Steady

variable {disk : Disk}

theorem ofExcept {α : Type} (result : Except BundleError α) :
    Steady disk (liftM result : Work α) := by
  cases result with
  | error e => exact throw e
  | ok a => exact pure a

/-- Rewriting a source is steady. -/
theorem rewriteSource (style : Script.Style) (path : Path) (source : String) :
    Steady disk (rewriteSource style disk path source) :=
  bind (ofExcept _) fun m => bind (Rewriting.Steady.link path m.resolved {}) fun _ => pure _

end Steady

/-- A source is rewritten by linking its module and printing what that gives. -/
theorem rewriteSource_alone (style : Script.Style) (disk : Disk) (path : Path) (source : String) :
    (rewriteSource style disk path source).alone = Except.map
      (fun (linked, outcome) => (linked.plain.print style, outcome))
      (parseModule path source >>= fun m =>
        ((Rewriting.link disk path m.resolved).run {}).alone) := by
  have parsed : Steady disk (liftM (parseModule path source) : Work Script.Module) := .ofExcept _
  have linked (m : Script.Module) : Steady disk ((Rewriting.link disk path m.resolved).run {}) :=
    Rewriting.Steady.link path m.resolved {}
  rw [rewriteSource, parsed.alone_bind fun m => (linked m).bind fun _ => .pure _]
  cases parseModule path source with
  | error e => rfl
  | ok m =>
    change ((Rewriting.link disk path m.resolved).run {} >>= _).alone = _
    rw [(linked m).alone_bind fun _ => .pure _]
    change _ = Except.map _ ((Rewriting.link disk path m.resolved).run {}).alone
    cases ((Rewriting.link disk path m.resolved).run {}).alone with
    | error e => rfl
    | ok result => rfl

end ScriptBundle
