import Mathlib.Tactic.Common
import ScriptBundle.Script.Grammar

/-! What readers give. A reader may stop with a complaint, and what it gives may depend on all that was
read before; a property of its results holds in whatever state it begins. -/
namespace ScriptBundle.Script.P

variable {α β : Type}

/-- Whether whatever a reader gives has a property. -/
def Yields (Q : α → Prop) (p : P α) : Prop := ∀ s a, (p.run s).1 = .ok a → Q a

namespace Yields

variable {Q Q' : α → Prop} {R : β → Prop} {p : P α} {f : α → P β}

theorem pure {a : α} (holds : Q a) : Yields Q (Pure.pure a) := by
  rintro s _ ⟨⟩
  exact holds

theorem throw (complaint : Complaint) : Yields Q (throw complaint : P α) := by
  rintro s _ ⟨⟩

theorem bind (first : Yields Q p) (second : ∀ a, Q a → Yields R (f a)) : Yields R (p >>= f) := by
  intro s b given
  change ((ExceptT.bindCont f (p.run s).1).run (p.run s).2).1 = .ok b at given
  cases read : (p.run s).1 with
  | error complaint =>
    rw [read] at given
    cases given
  | ok a =>
    rw [read] at given
    exact second a (first s a read) _ b given

theorem any (p : P α) : Yields (fun _ => True) p := fun _ _ _ => trivial

theorem next (second : ∀ a, Yields R (f a)) : Yields R (p >>= f) :=
  .bind (.any p) fun a _ => second a

theorem weaken (first : Yields Q p) (enough : ∀ a, Q a → Q' a) : Yields Q' p :=
  fun s a given => enough a (first s a given)

theorem within {change : Context → Context} (inside : Yields Q p) :
    Yields Q (P.within change p) := fun _ a given => inside _ a given

theorem fail (cause : Cause) (place : Nat) : Yields Q (P.fail cause place : P α) :=
  next fun _ => throw _

theorem failHere (cause : Cause) : Yields Q (P.failHere cause : P α) := next fun _ => fail _ _

theorem unexpected (wanted : String) : Yields Q (P.unexpected wanted : P α) :=
  next fun _ => failHere _

/-- A loop keeps a property of what it carries along if each round keeps it. -/
theorem forIn {σ : Type} {I : σ → Prop} {range : Std.Legacy.Range} {start : σ}
    {body : Nat → σ → P (ForInStep σ)} (begins : I start)
    (round : ∀ i s, I s → Yields (fun step => I step.value) (body i s)) :
    Yields I (ForIn.forIn range start body) := by
  rw [Std.Legacy.Range.forIn_eq_forIn_range']
  generalize List.range' _ _ _ = indices
  induction indices generalizing start with
  | nil => exact pure begins
  | cons i rest ih =>
    rw [List.forIn_cons]
    refine bind (round i start begins) fun step kept => ?_
    cases step with
    | done s => exact pure kept
    | yield s => exact ih kept

end Yields

theorem run_bind {p : P α} {f : α → P β} {s s' : State} {a : α} (first : p.run s = (.ok a, s')) :
    (p >>= f).run s = (f a).run s' := by
  change ((ExceptT.bindCont f (p.run s).1).run (p.run s).2) = _
  rw [first]
  rfl

theorem exists_lexeme (s : State) : ∃ l s', lexeme.run s = (.ok l, s') ∧ s'.current = some l := by
  have here : (get : P State).run s = (.ok s, s) := rfl
  unfold lexeme
  rw [run_bind here]
  cases known : s.current with
  | some l => exact ⟨l, s, rfl, known⟩
  | none => exact ⟨_, _, rfl, rfl⟩

section again

variable {s : State} {l : Lexeme}

/-- Looking at the current token again changes nothing. -/
theorem lexeme_again (known : s.current = some l) : lexeme.run s = (.ok l, s) := by
  have here : (get : P State).run s = (.ok s, s) := rfl
  unfold lexeme
  rw [run_bind here, known]
  rfl

theorem token_again (known : s.current = some l) : token.run s = (.ok l.token, s) :=
  run_bind (lexeme_again known)

theorem position_again (known : s.current = some l) : ∃ start, position.run s = (.ok start, s) := by
  unfold position
  rw [run_bind (lexeme_again known)]
  split <;> exact ⟨_, rfl⟩

theorem bump_again (known : s.current = some l) : ∃ s', bump.run s = (.ok l.token, s') := by
  unfold bump
  rw [run_bind (lexeme_again known)]
  split
  next finish => exact ⟨s, by rw [eq_of_beq finish]; rfl⟩
  next => exact ⟨_, rfl⟩

theorem literal?_again {value raw : String} (known : s.current = some l)
    (string : l.token = .string value raw) :
    ∃ start s', literal?.run s = (.ok (some (.mk (.string value (some raw)) start [])), s') := by
  obtain ⟨start, placed⟩ := position_again known
  obtain ⟨s', passed⟩ := bump_again known
  refine ⟨start, s', ?_⟩
  unfold literal?
  rw [run_bind placed, run_bind (token_again known), string]
  exact run_bind passed

end again

end ScriptBundle.Script.P
