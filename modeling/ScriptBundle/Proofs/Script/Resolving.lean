import ScriptBundle.Script.Scopes

/-! How looking names up goes through a tree. It enters scopes on the way down and counts them, and
keeps everything but marks. So what it gives for a tree in two scopes is related, if it is for names and
for what has related parts, and if related scopes are entered from related ones. -/
namespace ScriptBundle.Script

/-- Whether a node of a kind is a name that is looked up. -/
def Kind.isName : Kind → Bool
  | .identifier .. => true
  | _ => false

namespace Scopes

section steps

variable {α β γ δ : Type} {P : α → Prop} {Q : β → Prop} {R : γ → Prop} {T : δ → Prop}

/-- A step of looking names up that gives something with a property, whatever was counted before. -/
def Gives (P : α → Prop) (step : Numbering α) : Prop := ∀ number, P (step.run number).1

theorem Gives.pure {a : α} (holds : P a) : Gives P (pure a) := fun _ => holds

theorem Gives.bind {step : Numbering α} {next : α → Numbering β} (first : Gives P step)
    (second : ∀ a, P a → Gives Q (next a)) : Gives Q (step >>= next) :=
  fun number => second _ (first number) _

/-- What two steps give, one after the other, makes a whole. -/
theorem Gives.map₂ {first : Numbering α} {second : Numbering β} {whole : α → β → γ}
    (one : Gives P first) (other : Gives Q second) (made : ∀ a b, P a → Q b → R (whole a b)) :
    Gives R (do return whole (← first) (← second)) :=
  .bind one fun a holds => .bind other fun b holds' => .pure (made a b holds holds')

theorem Gives.map₃ {first : Numbering α} {second : Numbering β} {third : Numbering γ}
    {whole : α → β → γ → δ} (one : Gives P first) (other : Gives Q second) (last : Gives R third)
    (made : ∀ a b c, P a → Q b → R c → T (whole a b c)) :
    Gives T (do return whole (← first) (← second) (← third)) :=
  .bind one fun a holds => .map₂ other last fun b c => made a b c holds

theorem Gives.weaken {P' : α → Prop} {step : Numbering α} (first : Gives P step)
    (enough : ∀ a, P a → P' a) : Gives P' step := fun number => enough _ (first number)

theorem Gives.any (step : Numbering α) : Gives (fun _ => True) step := fun _ => trivial

end steps

section pairs

variable {α α' β β' γ γ' δ δ' : Type} {R : α → α' → Prop} {Q : β → β' → Prop}
  {U : γ → γ' → Prop} {V : δ → δ' → Prop}

/-- Whether two steps of looking names up give related results, whatever was counted before. -/
def Match (R : α → α' → Prop) (step : Numbering α) (step' : Numbering α') : Prop :=
  ∀ number number', R (step.run number).1 (step'.run number').1

theorem Match.pure {a : α} {a' : α'} (related : R a a') : Match R (pure a) (pure a') :=
  fun _ _ => related

theorem Match.bind {step : Numbering α} {step' : Numbering α'} {next : α → Numbering β}
    {next' : α' → Numbering β'} (steps : Match R step step')
    (rest : ∀ a a', R a a' → Match Q (next a) (next' a')) :
    Match Q (step >>= next) (step' >>= next') :=
  fun number number' => rest _ _ (steps number number') _ _

/-- Wholes are related that are made of what two related steps give, one after the other. -/
theorem Match.map₂ {first : Numbering α} {first' : Numbering α'} {second : Numbering β}
    {second' : Numbering β'} {whole : α → β → γ} {whole' : α' → β' → γ'}
    (one : Match R first first') (other : Match Q second second')
    (made : ∀ a a' b b', R a a' → Q b b' → U (whole a b) (whole' a' b')) :
    Match U (do return whole (← first) (← second)) (do return whole' (← first') (← second')) :=
  .bind one fun a a' related => .bind other fun b b' related' =>
    .pure (made a a' b b' related related')

theorem Match.map₃ {first : Numbering α} {first' : Numbering α'} {second : Numbering β}
    {second' : Numbering β'} {third : Numbering γ} {third' : Numbering γ'}
    {whole : α → β → γ → δ} {whole' : α' → β' → γ' → δ'} (one : Match R first first')
    (other : Match Q second second') (last : Match U third third')
    (made : ∀ a a' b b' c c', R a a' → Q b b' → U c c' → V (whole a b c) (whole' a' b' c')) :
    Match V (do return whole (← first) (← second) (← third))
      (do return whole' (← first') (← second') (← third')) :=
  .bind one fun a a' related => .map₂ other last fun b b' c c' => made a a' b b' c c' related

/-- Whether a relation of scopes holds inside of whatever is entered if it holds outside. There may be
one relation outside of types and one in types. -/
structure Lasts (S : Bool → Scopes → Scopes → Prop) : Prop where
  push {inType : Bool} {scopes scopes' : Scopes} (related : S inType scopes scopes')
    (number number' : Nat) (names types : List String) :
    S inType { scopes with chain := ⟨number, names, types⟩ :: scopes.chain }
      { scopes' with chain := ⟨number', names, types⟩ :: scopes'.chain }
  typed {inType : Bool} {scopes scopes' : Scopes} (related : S inType scopes scopes') :
    S true { scopes with inType := true } { scopes' with inType := true }
  reserve {inType : Bool} {scopes scopes' : Scopes} (related : S inType scopes scopes')
    (reserved : List String) :
    S inType { scopes with reserved := reserved } { scopes' with reserved := reserved }
  enterBlock {inType : Bool} {scopes scopes' : Scopes} (related : S inType scopes scopes')
    (statements : List Node) :
    Match (S inType) (scopes.enterBlock statements) (scopes'.enterBlock statements)

/-- A relation of scopes at the head of a block and in the block. -/
def Twice (S : Scopes → Scopes → Prop) (pair pair' : Scopes × Scopes) : Prop :=
  S pair.1 pair'.1 ∧ S pair.2 pair'.2

section lasts

variable {S : Bool → Scopes → Scopes → Prop} (lasts : Lasts S) {inType : Bool}
  {scopes scopes' : Scopes} (related : S inType scopes scopes')

include lasts related

theorem Lasts.enter (names types : List String) :
    Match (S inType) (scopes.enter names types) (scopes'.enter names types) :=
  fun number number' => lasts.push related number number' names types

theorem Lasts.enterTypes (types : List String) :
    Match (S true) (scopes.enterTypes types) (scopes'.enterTypes types) :=
  lasts.enter (lasts.typed related) [] types

theorem Lasts.enterBody (statements : List Node) :
    Match (S inType) (scopes.enterBody statements) (scopes'.enterBody statements) :=
  .bind (lasts.enter related _ _) fun _ _ inner => .pure (lasts.reserve inner _)

theorem Lasts.enterTwice (names types more moreTypes : List String) :
    Match (Twice (S inType)) (scopes.enterTwice names types more moreTypes)
      (scopes'.enterTwice names types more moreTypes) := by
  intro number number'
  have head := lasts.push related number number' names types
  exact ⟨head, lasts.push head number number' more moreTypes⟩

theorem Lasts.enterFunction (parameters types : List String) (statements : List Node) :
    Match (Twice (S inType)) (scopes.enterFunction parameters types statements)
      (scopes'.enterFunction parameters types statements) :=
  .bind (lasts.enterTwice related _ _ _ _) fun _ _ inner =>
    .pure ⟨inner.1, lasts.reserve inner.2 _⟩

theorem Lasts.enterHandler (thrown : List String) (statements : List Node) :
    Match (Twice (S inType)) (scopes.enterHandler thrown statements)
      (scopes'.enterHandler thrown statements) :=
  lasts.enterTwice related _ _ _ _

end lasts

end pairs

end Scopes

namespace Node

open Scopes

/-- Whether what looking names up makes of a tree in two scopes is related, if it is for names and for
what has related parts. -/
structure Relates (S : Bool → Scopes → Scopes → Prop) (R : Bool → Node → Node → Node → Prop)
    (Q : Bool → List Node → List Node → List Node → Prop) : Prop where
  identifier {inType : Bool} {scopes scopes' : Scopes} (related : S inType scopes scopes')
    (name : String) (mark : Mark) (offset : Nat) {types firsts seconds : List Node}
    (same : Q inType types firsts seconds) :
    R inType (mk (.identifier name mark) offset types)
      (mk (.identifier name (scopes.mark name)) offset firsts)
      (mk (.identifier name (scopes'.mark name)) offset seconds)
  node {inType : Bool} {kind : Kind} (other : kind.isName = false) (offset : Nat)
    {parts firsts seconds : List Node} (related : Q (kind.isTypes || inType) parts firsts seconds) :
    R inType (mk kind offset parts) (mk kind offset firsts) (mk kind offset seconds)
  nil {inType : Bool} : Q inType [] [] []
  cons {inType : Bool} {n first second : Node} {rest firsts seconds : List Node}
    (head : R inType n first second) (tail : Q inType rest firsts seconds) :
    Q inType (n :: rest) (first :: firsts) (second :: seconds)

/-- Looking names up twice goes through a tree in step: it enters related scopes, and so gives related
trees. -/
theorem resolve_match {S : Bool → Scopes → Scopes → Prop} {R : Bool → Node → Node → Node → Prop}
    {Q : Bool → List Node → List Node → List Node → Prop} (lasts : Lasts S)
    (relates : Relates S R Q) :
    (∀ scopes n, ∀ inType scopes', S inType scopes scopes' →
      Match (R inType n) (resolve scopes n) (resolve scopes' n)) ∧
    ∀ scopes ns, ∀ inType scopes', S inType scopes scopes' →
      Match (Q inType ns) (resolveAll scopes ns) (resolveAll scopes' ns) := by
  have pair {t : Bool} {n n' first first' second second' : Node} (head : R t n first second)
      (tail : R t n' first' second') : Q t [n, n'] [first, first'] [second, second'] :=
    relates.cons head (relates.cons tail relates.nil)
  apply resolve.mutual_induct
  case case1 =>
    intro scopes name mark offset types ih t scopes' related
    rw [resolve, resolve]
    exact .bind (ih t scopes' related) fun _ _ done =>
      .pure (relates.identifier related name mark offset done)
  case case2 =>
    intro scopes names offset parts ih t scopes' related
    rw [resolve, resolve]
    exact .bind (lasts.enterTypes related names) fun inner inner' within =>
      .bind (ih inner true inner' within) fun _ _ done => .pure (relates.node rfl _ done)
  case case22 =>
    intro scopes kind offset parts
    intros
    rename_i named typed _ _ _ _ _ _ _ _ _ _ _ _ _ _ _ _ _ _ _ ih t scopes' related
    have other : kind.isName = false := by
      cases kind <;> first | rfl | exact (named _ _ rfl).elim
    have value : kind.isTypes = false := by
      cases kind <;> first | rfl | exact (typed _ rfl).elim
    rw [resolve, resolve]
    · refine .bind (ih t scopes' related) fun _ _ done => .pure (relates.node other offset ?_)
      rwa [value]
    all_goals assumption
  case case23 =>
    intro scopes t scopes' related
    rw [resolveAll, resolveAll]
    exact .pure relates.nil
  case case24 =>
    intro scopes n rest ihFirst ihRest t scopes' related
    rw [resolveAll, resolveAll]
    exact .map₂ (ihFirst t scopes' related) (ihRest t scopes' related) fun _ _ _ _ first rest =>
      relates.cons first rest
  -- The types of a function stand at its head.
  case case3 =>
    intros
    rename_i ihParameters ihBody ihTypes t scopes' related
    rw [resolve, resolve]
    exact .bind (lasts.enterFunction related _ _ _) fun inner inner' within =>
      .map₃ (ihParameters inner.1 t inner'.1 within.1) (ihBody inner.2 t inner'.2 within.2)
        (ihTypes inner.1 t inner'.1 within.1) fun _ _ _ _ _ _ parameters body types =>
          relates.node rfl _ (relates.cons parameters (relates.cons (relates.node rfl _ body) types))
  case case4 =>
    intros
    rename_i other ihParameters ihBody ihTypes t scopes' related
    rw [resolve, resolve]
    · exact .bind (lasts.enterFunction related _ _ _) fun inner inner' within =>
        .map₃ (ihParameters inner.1 t inner'.1 within.1) (ihBody inner.2 t inner'.2 within.2)
          (ihTypes inner.1 t inner'.1 within.1) fun _ _ _ _ _ _ parameters body types =>
            relates.node rfl _ (relates.cons parameters (relates.cons body types))
    all_goals exact other
  case case5 =>
    intros
    rename_i ihParameters ihBody ihTypes t scopes' related
    rw [resolve, resolve]
    exact .bind (lasts.enterFunction related _ _ _) fun inner inner' within =>
      .map₃ (ihParameters inner.1 t inner'.1 within.1) (ihBody inner.2 t inner'.2 within.2)
        (ihTypes inner.2 t inner'.2 within.2) fun _ _ _ _ _ _ parameters body types =>
          relates.node rfl _ (relates.cons parameters (relates.cons (relates.node rfl _ body) types))
  case case6 =>
    intros
    rename_i other ihParameters ihBody ihTypes t scopes' related
    rw [resolve, resolve]
    · exact .bind (lasts.enterFunction related _ _ _) fun inner inner' within =>
        .map₃ (ihParameters inner.1 t inner'.1 within.1) (ihBody inner.2 t inner'.2 within.2)
          (ihTypes inner.2 t inner'.2 within.2) fun _ _ _ _ _ _ parameters body types =>
            relates.node rfl _ (relates.cons parameters (relates.cons body types))
    all_goals exact other
  -- The key of a constructor stands outside of its scope.
  case case7 =>
    intro scopes offset key parameters place statements ihKey ihParameters ihBody t scopes' related
    rw [resolve, resolve]
    exact .bind (lasts.enterFunction related _ _ _) fun inner inner' within =>
      .map₃ (ihKey t scopes' related) (ihParameters inner.1 t inner'.1 within.1)
        (ihBody inner.2 t inner'.2 within.2) fun _ _ _ _ _ _ key parameters body =>
          relates.node rfl _ (relates.cons key (pair parameters (relates.node rfl _ body)))
  case case8 =>
    intro scopes offset key parameters body other ihKey ihParameters ihBody t scopes' related
    rw [resolve, resolve]
    · exact .bind (lasts.enterFunction related _ _ _) fun inner inner' within =>
        .map₃ (ihKey t scopes' related) (ihParameters inner.1 t inner'.1 within.1)
          (ihBody inner.2 t inner'.2 within.2) fun _ _ _ _ _ _ key parameters body =>
            relates.node rfl _ (relates.cons key (pair parameters body))
    all_goals exact other
  case case9 =>
    intro scopes offset place statements ih t scopes' related
    rw [resolve, resolve]
    exact .bind (lasts.enterBody related _) fun inner inner' within =>
      .bind (ih inner t inner' within) fun _ _ done =>
        .pure (relates.node rfl _ (relates.cons (relates.node rfl _ done) relates.nil))
  case case20 =>
    intro scopes offset items ih t scopes' related
    rw [resolve, resolve]
    exact .bind (lasts.enterBody related _) fun inner inner' within =>
      .bind (ih inner t inner' within) fun _ _ done => .pure (relates.node rfl _ done)
  case case13 =>
    intro scopes offset statements ih t scopes' related
    rw [resolve, resolve]
    exact .bind (lasts.enterBlock related _) fun inner inner' within =>
      .bind (ih inner t inner' within) fun _ _ done => .pure (relates.node rfl _ done)
  -- Both parts stand in a scope with the names that the first part declares.
  case case10 | case11 =>
    intros
    rename_i ihFirst ihSecond t scopes' related
    rw [resolve, resolve]
    exact .bind (lasts.enter related _ _) fun inner inner' within =>
      .map₂ (ihFirst inner t inner' within) (ihSecond inner t inner' within)
        fun _ _ _ _ first second => relates.node rfl _ (pair first second)
  case case14 | case15 | case16 =>
    intros
    rename_i ihFirst ihSecond t scopes' related
    rw [resolve, resolve]
    exact .bind (lasts.enter related _ _) fun inner inner' within =>
      .map₂ (ihFirst inner t inner' within) (ihSecond inner t inner' within)
        fun _ _ _ _ first second => relates.node rfl _ (relates.cons first second)
  case case18 =>
    intro scopes offset pattern place statements ihPattern ihStatements t scopes' related
    rw [resolve, resolve]
    exact .bind (lasts.enterHandler related _ _) fun inner inner' within =>
      .map₂ (ihPattern inner.1 t inner'.1 within.1) (ihStatements inner.2 t inner'.2 within.2)
        fun _ _ _ _ pattern statements =>
          relates.node rfl _ (pair pattern (relates.node rfl _ statements))
  -- The first part stands outside of the new scope.
  case case12 | case17 | case19 =>
    intros
    rename_i ihFirst ihSecond t scopes' related
    rw [resolve, resolve]
    exact .bind (ihFirst t scopes' related) fun _ _ first => .bind (lasts.enter related _ _)
      fun inner inner' within => .bind (ihSecond inner t inner' within) fun _ _ second =>
        .pure (relates.node rfl _ (relates.cons first second))
  case case21 =>
    intro scopes isDeclared isGlobal offset name body ihName ihBody t scopes' related
    rw [resolve, resolve]
    exact .bind (ihName t scopes' related) fun _ _ name => .bind (lasts.enter related _ _)
      fun inner inner' within => .bind (ihBody inner t inner' within) fun _ _ body =>
        .pure (relates.node rfl _ (pair name body))

/-- What holds of all that looking names up gives, in whatever scopes. -/
theorem resolve_gives {R : Node → Node → Prop} {Q : List Node → List Node → Prop}
    (relates : Relates (fun _ _ _ => True) (fun _ n n' _ => R n n') fun _ ns ns' _ => Q ns ns') :
    (∀ scopes n, Gives (R n) (resolve scopes n)) ∧
    ∀ scopes ns, Gives (Q ns) (resolveAll scopes ns) := by
  have lasts : Lasts fun _ _ _ => True :=
    ⟨fun _ _ _ _ _ => trivial, fun _ => trivial, fun _ _ => trivial, fun _ _ _ _ => trivial⟩
  obtain ⟨node, list⟩ := resolve_match lasts relates
  exact ⟨fun scopes n number => node scopes n false scopes trivial number number,
    fun scopes ns number => list scopes ns false scopes trivial number number⟩

end Node

end ScriptBundle.Script
