import Mathlib.Data.List.Forall2
import ScriptBundle.Proofs.Script.Resolving

/-! Which names a module leaves free. A name is unresolved just if no scope around it declares it, so
scopes that declare fewer names leave more names free, however the scopes are numbered. -/
namespace ScriptBundle.Script

namespace Node

mutual

/-- The names of a tree in the order in which they are read, with their marks. -/
def identifiers : Node → List Symbol
  | mk (.identifier name mark) _ types => (name, mark) :: allIdentifiers types
  | mk _ _ parts => allIdentifiers parts

def allIdentifiers : List Node → List Symbol
  | [] => []
  | n :: rest => n.identifiers ++ allIdentifiers rest

end

theorem mem_allIdentifiers {ns : List Node} {s : Symbol} :
    s ∈ allIdentifiers ns ↔ ∃ n ∈ ns, s ∈ n.identifiers := by
  induction ns with
  | nil => simp [allIdentifiers]
  | cons n rest ih => rw [allIdentifiers, List.mem_append, ih, List.exists_mem_cons_iff]

/-- Whether a name is free wherever the bundler has written it, given identifiers before and after
names are looked up. -/
def Free (name : String) (before after : List Symbol) : Prop :=
  List.Forall₂ (fun s s' => s = (name, .unknown) → s' = (name, .unresolved)) before after

instance (name : String) (before after : List Symbol) : Decidable (Free name before after) :=
  inferInstanceAs (Decidable (List.Forall₂ _ before after))

/-- Whether names that were looked up twice are free the second time wherever they are the first
time. -/
inductive Freer : List Symbol → List Symbol → List Symbol → Prop
  | nil : Freer [] [] []
  | cons {name : String} {mark first second : Mark} {before firsts seconds : List Symbol} :
      (first = .unresolved → second = .unresolved) → Freer before firsts seconds →
      Freer ((name, mark) :: before) ((name, first) :: firsts) ((name, second) :: seconds)

theorem Freer.append {before firsts seconds before' firsts' seconds' : List Symbol}
    (left : Freer before firsts seconds) (right : Freer before' firsts' seconds') :
    Freer (before ++ before') (firsts ++ firsts') (seconds ++ seconds') := by
  induction left with
  | nil => exact right
  | cons freer _ ih => exact .cons freer ih

theorem Freer.free {name : String} {before firsts seconds : List Symbol}
    (freer : Freer before firsts seconds) (free : Free name before firsts) :
    Free name before seconds := by
  induction freer with
  | nil => exact .nil
  | cons freer _ ih =>
    cases free with
    | cons here rest =>
      refine .cons (fun written => ?_) (ih rest)
      obtain ⟨rfl, unresolved⟩ := Prod.mk.inj (here written)
      rw [freer unresolved]

theorem Freer.unwritten {name : String} {before firsts seconds : List Symbol}
    (freer : Freer before firsts seconds) (unwritten : ∀ s ∈ before, s ≠ (name, .unknown)) :
    Free name before seconds := by
  induction freer with
  | nil => exact .nil
  | cons _ _ ih =>
    rw [List.forall_mem_cons] at unwritten
    exact .cons (fun written => absurd written unwritten.1) (ih unwritten.2)

theorem Freer.length {before firsts seconds : List Symbol} (freer : Freer before firsts seconds) :
    firsts.length = before.length := by
  induction freer with
  | nil => rfl
  | cons _ _ ih => simp [ih]

theorem free_append {name : String} {before after before' after' : List Symbol}
    (aligned : after.length = before.length) :
    Free name (before ++ before') (after ++ after') ↔
      Free name before after ∧ Free name before' after' := by
  induction before generalizing after with
  | nil =>
    obtain rfl := List.length_eq_zero_iff.mp aligned
    simp [Free]
  | cons s before ih =>
    obtain ⟨s', after, rfl⟩ := List.exists_cons_of_length_eq_add_one aligned
    have rest := @ih after (by simpa using aligned)
    simp only [Free] at rest
    simp only [Free, List.cons_append, List.forall₂_cons, rest, and_assoc]

end Node

/-- Whether the parts of a node of a kind stand in the scopes around the node. -/
def Kind.isTransparent : Kind → Bool
  | .identifier .. | .types _ | .function .. | .arrow _ | .constructor | .staticBlock
  | .functionExpression | .classExpression | .classBody | .block | .forLoop | .forIn | .forOf _
  | .switch | .catch | .enum .. | .namespaceBlock | .namespace .. => false
  | _ => true

namespace Scopes

/-- Whether a scope around a place declares a name as a value. -/
def HasValue (scopes : Scopes) (name : String) : Prop := ∃ scope ∈ scopes.chain, name ∈ scope.names

/-- Whether a scope around a place declares a name as a type. -/
def HasType (scopes : Scopes) (name : String) : Prop := ∃ scope ∈ scopes.chain, name ∈ scope.types

/-- Whether a name that stands in a place stands for something declared around it. -/
def Declares (scopes : Scopes) (name : String) : Prop :=
  scopes.HasValue name ∨ scopes.inType = true ∧ scopes.HasType name

theorem declares_iff {scopes : Scopes} {name : String} :
    scopes.Declares name ↔ ∃ scope ∈ scopes.chain, name ∈ scope.visible scopes.inType := by
  obtain ⟨chain, reserved, inType⟩ := scopes
  cases inType with
  | false => simp [Declares, HasValue, Scope.visible]
  | true => simp [Declares, HasValue, HasType, Scope.visible, and_or_left, exists_or]

theorem mark_eq_unresolved {scopes : Scopes} {name : String} :
    scopes.mark name = .unresolved ↔ ¬scopes.Declares name := by
  rw [declares_iff]
  unfold mark
  split
  next scope found =>
    have declared := List.find?_some found
    simp only [reduceCtorEq, false_iff, not_not]
    exact ⟨scope, List.mem_of_find?_eq_some found, by simpa using declared⟩
  next none => simpa using none

section push

variable {scope : Scope} {chain : List Scope} {reserved : List String} {inType : Bool} {name : String}

theorem hasValue_cons : HasValue ⟨scope :: chain, reserved, inType⟩ name ↔
    name ∈ scope.names ∨ HasValue ⟨chain, reserved, inType⟩ name := by
  simp [HasValue]

theorem hasType_cons : HasType ⟨scope :: chain, reserved, inType⟩ name ↔
    name ∈ scope.types ∨ HasType ⟨chain, reserved, inType⟩ name := by
  simp [HasType]

end push

/-- Whether scopes declare all names that others declare, and keep all names from functions in blocks
that the others keep from them. -/
structure Covers (wider scopes : Scopes) : Prop where
  values : ∀ name, scopes.HasValue name → wider.HasValue name
  types : ∀ name, scopes.HasType name → wider.HasType name
  reserved : scopes.reserved ⊆ wider.reserved
  inType : wider.inType = scopes.inType

variable {scopes wider : Scopes}

theorem Covers.declares (covers : Covers wider scopes) {name : String}
    (declared : scopes.Declares name) : wider.Declares name := by
  unfold Declares at declared ⊢
  rw [covers.inType]
  exact declared.imp (covers.values name) (And.imp_right (covers.types name))

theorem Covers.push (covers : Covers wider scopes) {names more types : List String}
    (fewer : names ⊆ more) (number number' : Nat) :
    Covers { wider with chain := ⟨number, more, types⟩ :: wider.chain }
      { scopes with chain := ⟨number', names, types⟩ :: scopes.chain } where
  values name declared := hasValue_cons.mpr
    ((hasValue_cons.mp declared).imp (@fewer name) (covers.values name))
  types name declared := hasType_cons.mpr ((hasType_cons.mp declared).imp_right (covers.types name))
  reserved := covers.reserved
  inType := covers.inType

theorem Covers.lasts : Lasts fun _ => Covers where
  push covers number number' _ _ := covers.push (List.Subset.refl _) number number'
  typed covers := ⟨covers.values, covers.types, covers.reserved, rfl⟩
  reserve covers _ := ⟨covers.values, covers.types, List.Subset.refl _, covers.inType⟩
  enterBlock covers statements := by
    refine fun number number' => covers.push (fun name member => ?_) number number'
    simp only [List.mem_append, List.mem_filter, List.contains_iff_mem] at member ⊢
    exact member.imp_right fun kept => ⟨kept.1, covers.reserved kept.2⟩

end Scopes

namespace Node

open Scopes

/-- Fewer declared names around a tree leave more of its names free. -/
theorem resolve_freer :
    (∀ wider n, ∀ scopes, Covers wider scopes →
      Match (fun n₁ n₂ => Freer n.identifiers n₁.identifiers n₂.identifiers)
        (resolve wider n) (resolve scopes n)) ∧
    ∀ wider ns, ∀ scopes, Covers wider scopes →
      Match (fun ns₁ ns₂ => Freer (allIdentifiers ns) (allIdentifiers ns₁) (allIdentifiers ns₂))
        (resolveAll wider ns) (resolveAll scopes ns) := by
  suffices relates : Relates (fun _ => Covers)
      (fun _ n n₁ n₂ => Freer n.identifiers n₁.identifiers n₂.identifiers)
      fun _ ns ns₁ ns₂ => Freer (allIdentifiers ns) (allIdentifiers ns₁) (allIdentifiers ns₂) by
    obtain ⟨node, list⟩ := resolve_match Covers.lasts relates
    exact ⟨fun wider n => node wider n false, fun wider ns => list wider ns false⟩
  refine ⟨?_, ?_, .nil, fun head tail => head.append tail⟩
  · intro _ wider scopes covers name mark offset types firsts seconds freer
    refine .cons (fun free => mark_eq_unresolved.mpr fun declared => ?_) freer
    exact mark_eq_unresolved.mp free (covers.declares declared)
  · intro _ kind other offset parts firsts seconds freer
    have plain (parts : List Node) : identifiers (mk kind offset parts) = allIdentifiers parts := by
      cases kind <;> first | rfl | cases other
    rwa [plain, plain, plain]

theorem covers_refl (scopes : Scopes) : Covers scopes scopes :=
  ⟨fun _ declared => declared, fun _ declared => declared, fun _ member => member, rfl⟩

variable {name : String} {scopes wider : Scopes}

/-- Whether a name that the bundler has written in a tree is free in it and in the scopes around it. -/
def FreeIn (name : String) (scopes : Scopes) (n : Node) : Prop :=
  Gives (fun n' => Free name n.identifiers n'.identifiers) (n.resolve scopes)

def FreeInAll (name : String) (scopes : Scopes) (ns : List Node) : Prop :=
  Gives (fun ns' => Free name (allIdentifiers ns) (allIdentifiers ns')) (resolveAll scopes ns)

theorem FreeIn.narrow {n : Node} (free : FreeIn name wider n) (covers : Covers wider scopes) :
    FreeIn name scopes n :=
  fun number => (resolve_freer.1 wider n scopes covers number number).free (free number)

theorem FreeInAll.narrow {ns : List Node} (free : FreeInAll name wider ns)
    (covers : Covers wider scopes) : FreeInAll name scopes ns :=
  fun number => (resolve_freer.2 wider ns scopes covers number number).free (free number)

/-- The count of scopes does not matter. -/
theorem freeInAll_of_run {ns : List Node} (number : Nat)
    (free : Free name (allIdentifiers ns) (allIdentifiers ((resolveAll scopes ns).run number).1)) :
    FreeInAll name scopes ns :=
  fun number' => (resolve_freer.2 scopes ns scopes (covers_refl scopes) number number').free free

/-- A name that the bundler has nowhere written is free where it has. -/
theorem freeInAll_of_unwritten {ns : List Node}
    (unwritten : ∀ s ∈ allIdentifiers ns, s ≠ (name, .unknown)) : FreeInAll name scopes ns :=
  fun number => (resolve_freer.2 scopes ns scopes (covers_refl scopes) number number).unwritten
    unwritten

@[simp] theorem freeInAll_nil : FreeInAll name scopes [] := by
  unfold FreeInAll
  rw [resolveAll]
  exact .pure .nil

theorem length_identifiers_resolve (scopes : Scopes) (n : Node) :
    Gives (fun n' => n'.identifiers.length = n.identifiers.length) (n.resolve scopes) :=
  fun number => (resolve_freer.1 scopes n scopes (covers_refl scopes) number number).length

@[simp] theorem freeInAll_cons {n : Node} {rest : List Node} :
    FreeInAll name scopes (n :: rest) ↔ FreeIn name scopes n ∧ FreeInAll name scopes rest := by
  have parts (number : Nat) :
      Free name (allIdentifiers (n :: rest))
        (allIdentifiers ((resolveAll scopes (n :: rest)).run number).1) ↔
      Free name n.identifiers ((n.resolve scopes).run number).1.identifiers ∧
        Free name (allIdentifiers rest)
          (allIdentifiers ((resolveAll scopes rest).run ((n.resolve scopes).run number).2).1) := by
    rw [resolveAll]
    exact free_append (length_identifiers_resolve scopes n number)
  constructor
  · intro free
    exact ⟨fun number => ((parts number).mp (free number)).1,
      freeInAll_of_run _ ((parts 0).mp (free 0)).2⟩
  · rintro ⟨first, others⟩ number
    exact (parts number).mpr ⟨first number, others _⟩

theorem freeInAll_iff {ns : List Node} :
    FreeInAll name scopes ns ↔ ∀ n ∈ ns, FreeIn name scopes n := by
  induction ns with
  | nil => simp
  | cons n rest ih => simp [ih]

@[simp] theorem freeInAll_append {ns others : List Node} :
    FreeInAll name scopes (ns ++ others) ↔
      FreeInAll name scopes ns ∧ FreeInAll name scopes others := by
  simp only [freeInAll_iff, List.mem_append, or_imp, forall_and]

theorem freeIn_mk {kind : Kind} {offset : Nat} {parts : List Node}
    (transparent : kind.isTransparent) :
    FreeIn name scopes (mk kind offset parts) ↔ FreeInAll name scopes parts := by
  have plain (parts : List Node) : identifiers (mk kind offset parts) = allIdentifiers parts := by
    cases kind <;> first | rfl | exact absurd transparent Bool.false_ne_true
  have looked : resolve scopes (mk kind offset parts) = (do
      return mk kind offset (← resolveAll scopes parts)) := by
    cases kind <;> first | exact absurd transparent Bool.false_ne_true | simp only [resolve]
  have parts (number : Nat) :
      ((mk kind offset parts).resolve scopes |>.run number).1.identifiers =
        allIdentifiers ((resolveAll scopes parts).run number).1 := by
    rw [looked]
    exact plain _
  simp only [FreeIn, FreeInAll, Gives, parts, plain]

theorem freeIn_identifier {x : String} {mark : Mark} {offset : Nat} {types : List Node} :
    FreeIn name scopes (mk (.identifier x mark) offset types) ↔
      (x = name → mark = .unknown → ¬scopes.Declares name) ∧ FreeInAll name scopes types := by
  have parts (number : Nat) :
      Free name (mk (.identifier x mark) offset types).identifiers
        ((mk (.identifier x mark) offset types).resolve scopes |>.run number).1.identifiers ↔
      ((x, mark) = (name, .unknown) → (x, scopes.mark x) = (name, .unresolved)) ∧
        Free name (allIdentifiers types)
          (allIdentifiers ((resolveAll scopes types).run number).1) := by
    rw [resolve]
    exact List.forall₂_cons
  constructor
  · intro free
    refine ⟨?_, fun number => ((parts number).mp (free number)).2⟩
    rintro rfl rfl
    exact mark_eq_unresolved.mp (congrArg Prod.snd (((parts 0).mp (free 0)).1 rfl))
  · rintro ⟨free, inside⟩ number
    refine (parts number).mpr ⟨fun written => ?_, inside number⟩
    obtain ⟨rfl, rfl⟩ := Prod.mk.inj written
    rw [mark_eq_unresolved.mpr (free rfl rfl)]

/-- A function or a class without a name, as an expression. -/
theorem freeIn_unnamed {kind : Kind} (expression : kind ∈ [.functionExpression, .classExpression])
    {offset : Nat} {first second : Node} (unnamed : first.boundNames = [])
    (free : FreeIn name scopes first) (free' : FreeIn name scopes second) :
    FreeIn name scopes (mk kind offset [first, second]) := by
  have enter : Gives (Covers scopes) (scopes.enter first.boundNames []) := by
    rw [unnamed]
    refine fun number => ⟨fun x declared => ?_, fun x declared => ?_, fun _ member => member, rfl⟩
    · exact (hasValue_cons.mp declared).resolve_left List.not_mem_nil
    · exact (hasType_cons.mp declared).resolve_left List.not_mem_nil
  simp only [List.mem_cons, List.not_mem_nil, or_false] at expression
  have both {first' second' : Node} (done : Free name first.identifiers first'.identifiers)
      (done' : Free name second.identifiers second'.identifiers) :
      Free name (mk kind offset [first, second]).identifiers
        (mk kind offset [first', second']).identifiers := by
    have aligned := done.length_eq.symm
    obtain rfl | rfl := expression <;>
      simpa [identifiers, allIdentifiers] using (free_append aligned).mpr ⟨done, done'⟩
  unfold FreeIn
  obtain rfl | rfl := expression
  all_goals
    rw [resolve]
    exact .bind enter fun inner covers => .map₂ (free.narrow covers) (free'.narrow covers)
      fun _ _ => both

end Node

namespace Module

/-- The names that the scope of a module declares. -/
def ownNames (m : Module) : List String :=
  m.items.flatMap Node.lexicalNames ++ Node.hoistedNamesOfAll m.items

/-- The scopes around the items of a module. -/
def ownScopes (m : Module) : Scopes where
  chain := [⟨0, m.ownNames, m.items.flatMap Node.lexicalTypes⟩]
  reserved := m.items.flatMap Node.lexicalNames
  inType := false

/-- Whether no declaration of a module binds a name where the bundler has written it. -/
def LeavesFree (m : Module) (name : String) : Prop :=
  Node.Free name (Node.allIdentifiers m.items) (Node.allIdentifiers m.resolved.items)

instance (m : Module) (name : String) : Decidable (m.LeavesFree name) :=
  inferInstanceAs (Decidable (Node.Free ..))

section own

variable {m : Module} {name : String}

theorem hasValue_ownScopes : m.ownScopes.HasValue name ↔ name ∈ m.ownNames := by
  simp [ownScopes, Scopes.HasValue]

theorem hasType_ownScopes : m.ownScopes.HasType name ↔ name ∈ m.items.flatMap Node.lexicalTypes := by
  simp [ownScopes, Scopes.HasType]

theorem declares_ownScopes : m.ownScopes.Declares name ↔ name ∈ m.ownNames := by
  simp [Scopes.Declares, hasValue_ownScopes, show m.ownScopes.inType = false from rfl]

end own

theorem leavesFree_iff {m : Module} {name : String} :
    m.LeavesFree name ↔ Node.FreeInAll name m.ownScopes m.items :=
  ⟨Node.freeInAll_of_run 1, fun free => free 1⟩

end Module

end ScriptBundle.Script
