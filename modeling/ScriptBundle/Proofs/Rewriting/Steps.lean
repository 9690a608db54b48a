import ScriptBundle.Rewriting

/-! The steps of rewriting. Linking a module is put together from a few kinds of steps, of which only
one looks at the disk: asking for a module. So what all of them have, on one disk or on two disks side
by side, linking has. -/
namespace ScriptBundle.Rewriting

open Script

/-- A relation between steps on two disks that holds between the steps of each kind, and between what is
put together from steps that are related. -/
structure SideBySide (disk disk' : Disk) (importer : Path)
    (R : {α : Type} → Rewrite α → Rewrite α → Prop) : Prop where
  pure : ∀ {α : Type} (a : α), R (Pure.pure a) (Pure.pure a)
  bind : ∀ {α β : Type} {r r' : Rewrite α} {next next' : α → Rewrite β}, R r r' →
    (∀ a, R (next a) (next' a)) → R (r >>= next) (r' >>= next')
  refuse : ∀ {α : Type} (construct : String),
    R (throw (.unsupportedSyntax importer construct) : Rewrite α)
      (throw (.unsupportedSyntax importer construct))
  resolve : ∀ specifier, R (liftM (Resolution.resolve disk specifier importer))
    (liftM (Resolution.resolve disk' specifier importer))
  report : ∀ level text, R (report level text) (report level text)
  modify : ∀ f : Outcome → Outcome, R (modify f) (modify f)

namespace SideBySide

variable {disk disk' : Disk} {importer : Path} {R : {α : Type} → Rewrite α → Rewrite α → Prop}
  (both : SideBySide disk disk' importer R)
include both

theorem refer (specifier : String) :
    R (refer disk importer specifier) (refer disk' importer specifier) := by
  refine both.bind (both.resolve specifier) fun identity => ?_
  exact both.bind (both.modify _) fun _ => both.pure identity

theorem lowerItem (form : ItemForm) :
    R (lowerItem disk importer form) (lowerItem disk' importer form) := by
  cases form with
  | statement n => exact both.pure [n]
  | exporting form =>
    have reports (names : List String) (text : String → String) :
        R (names.forM fun name => Rewriting.report .trace (text name))
          (names.forM fun name => Rewriting.report .trace (text name)) := by
      induction names with
      | nil => exact both.pure ()
      | cons name rest ih => exact both.bind (both.report _ _) fun _ => ih
    exact both.bind (reports _ _) fun _ => both.pure form.statements
  | importing form =>
    simp only [Rewriting.lowerItem]
    cases form.specifier? with
    | none => exact both.pure []
    | some specifier =>
      refine both.bind (both.resolve specifier) fun identity => ?_
      refine both.bind (both.report _ _) fun _ => ?_
      exact both.bind (both.modify _) fun _ => both.pure (form.statements identity)

theorem lowerItems (types : List String) (items : List Node) :
    R (lowerItems disk importer types items) (lowerItems disk' importer types items) := by
  induction items with
  | nil => exact both.pure []
  | cons n rest ih =>
    unfold Rewriting.lowerItems
    cases ItemForm.ofNode types n with
    | error construct => exact both.refuse construct
    | ok form =>
      refine both.bind (both.lowerItem form) fun first => ?_
      exact both.bind ih fun others => both.pure (first ++ others)

theorem redirectCall (n : Node) :
    R (redirectCall disk importer n) (redirectCall disk' importer n) := by
  unfold Rewriting.redirectCall
  cases requireArguments? n with
  | none => exact both.pure n
  | some arguments =>
    dsimp only
    split
    · refine both.bind (both.report _ _) fun _ => ?_
      exact both.bind (both.modify _) fun _ => both.pure n
    · cases soleSpecifier? arguments with
      | none => exact both.pure n
      | some specifier =>
        exact both.bind (both.refer specifier) fun identity => both.pure (dispatchWith _ identity)

/-- The order of the parts differs with the kind of node, but every part is redirected. -/
theorem redirects : (∀ n, R (redirect disk importer n) (redirect disk' importer n)) ∧
    ∀ ns, R (redirectAll disk importer ns) (redirectAll disk' importer ns) := by
  apply redirect.mutual_induct
  case case1 =>
    intro offset body test ihTest ihBody
    simp only [redirect]
    exact both.bind ihTest fun test => both.bind ihBody fun body => both.pure _
  case case2 =>
    intro offset base members ihMembers ihBase
    simp only [redirect]
    exact both.bind ihMembers fun members => both.bind ihBase fun base => both.pure _
  case case3 =>
    intro kind offset parts noLoop noClass ih
    rw [redirect.eq_3 _ _ _ _ _ noLoop noClass, redirect.eq_3 _ _ _ _ _ noLoop noClass]
    exact both.bind ih fun parts => both.redirectCall (.mk kind offset parts)
  case case4 =>
    simp only [redirectAll]
    exact both.pure []
  case case5 =>
    intro n rest ihFirst ihRest
    simp only [redirectAll]
    exact both.bind ihFirst fun n => both.bind ihRest fun others => both.pure (n :: others)

theorem link (m : Module) : R (link disk importer m) (link disk' importer m) := by
  refine both.bind (both.lowerItems _ _) fun items => ?_
  exact both.bind (both.redirects.2 items) fun items => both.pure { m with items }

end SideBySide

end ScriptBundle.Rewriting
