import ScriptBundle.Proofs.Script.DeclaredNames
import ScriptBundle.Proofs.Script.FreeNames

/-! Names that a tree declares nowhere. Whatever scopes are entered on the way down, they have only
names that the tree declares; so a name that it does not declare is looked up outside of it. -/
namespace ScriptBundle.Script

namespace Node

/-- The names that a node declares for its parts: parameters, what a handler catches, and the name of a
function or a class in an expression. -/
def headNames : Node → List String
  | mk .constructor _ (_ :: parameters :: _) => parameters.boundNames
  | mk kind _ (head :: _) =>
    match kind with
    | .function .. | .arrow _ | .functionExpression | .classExpression | .catch => head.boundNames
    | _ => []
  | _ => []

mutual

/-- The names that a tree declares, in whatever scopes, as values and as types. -/
def declaredNames : Node → List String
  | mk kind offset parts =>
    headNames (mk kind offset parts) ++ lexicalNames (mk kind offset parts) ++
      lexicalTypes (mk kind offset parts) ++ boundTypes (mk kind offset parts) ++
      functionNames (mk kind offset parts) ++ hoistedNames (mk kind offset parts) ++
      enumeratorNames (mk kind offset parts) ++ declaredNamesOfAll parts

def declaredNamesOfAll : List Node → List String
  | [] => []
  | n :: rest => n.declaredNames ++ declaredNamesOfAll rest

end

theorem declaredNamesOfAll_eq (ns : List Node) : declaredNamesOfAll ns = ns.flatMap declaredNames := by
  induction ns with
  | nil => rfl
  | cons n rest ih => rw [declaredNamesOfAll, ih, List.flatMap_cons]

theorem headNames_congr {kind : Kind} {offset : Nat} {parts parts' : List Node}
    (same : List.Forall₂ Alike parts parts') :
    (mk kind offset parts').headNames = (mk kind offset parts).headNames := by
  cases same with
  | nil => cases kind <;> rfl
  | cons first rest =>
    have head := congrArg (·.map Prod.fst) first.bound
    cases rest with
    | nil => cases kind <;> first | rfl | exact head
    | cons second =>
      have list := congrArg (·.map Prod.fst) second.bound
      cases kind <;> first | rfl | exact head | exact list

theorem boundTypes_congr {kind : Kind} {offset : Nat} {parts parts' : List Node} :
    (mk kind offset parts').boundTypes = (mk kind offset parts).boundTypes := by
  cases kind <;> rfl

/-- A node declares no more than another one whose parts declare no less. -/
theorem declaredNames_subset {kind : Kind} {offset : Nat} {parts parts' : List Node}
    (same : List.Forall₂ Alike parts parts')
    (within : declaredNamesOfAll parts' ⊆ declaredNamesOfAll parts) :
    (mk kind offset parts').declaredNames ⊆ (mk kind offset parts).declaredNames := by
  rw [declaredNames, declaredNames, headNames_congr same, lexicalNames_congr same,
    lexicalTypes_congr same, boundTypes_congr, functionNames_congr same, hoistedNames_congr same,
    enumeratorNames_congr same]
  exact List.append_subset.mpr
    ⟨List.subset_append_left _ _, List.subset_append_of_subset_right _ within⟩

/-- Whether a tree does not declare a name, in any scope. -/
structure Avoids (name : String) (n : Node) : Prop where
  head : name ∉ n.headNames
  lexical : name ∉ n.lexicalNames
  types : name ∉ n.lexicalTypes
  bound : name ∉ n.boundTypes
  function : name ∉ n.functionNames
  hoisted : name ∉ n.hoistedNames
  enumerator : name ∉ n.enumeratorNames
  parts : name ∉ declaredNamesOfAll n.parts

theorem notMem_declaredNames {name : String} {n : Node} :
    name ∉ n.declaredNames ↔ Avoids name n := by
  obtain ⟨kind, offset, parts⟩ := n
  simp only [declaredNames, List.mem_append, not_or]
  constructor
  · rintro ⟨⟨⟨⟨⟨⟨⟨head, lexical⟩, types⟩, bound⟩, function⟩, hoisted⟩, enumerator⟩, parts⟩
    exact ⟨head, lexical, types, bound, function, hoisted, enumerator, parts⟩
  · rintro ⟨head, lexical, types, bound, function, hoisted, enumerator, parts⟩
    exact ⟨⟨⟨⟨⟨⟨⟨head, lexical⟩, types⟩, bound⟩, function⟩, hoisted⟩, enumerator⟩, parts⟩

theorem notMem_declaredNamesOfAll {name : String} {ns : List Node} :
    name ∉ declaredNamesOfAll ns ↔ ∀ n ∈ ns, Avoids name n := by
  rw [declaredNamesOfAll_eq, List.mem_flatMap]
  simp only [not_exists, not_and, notMem_declaredNames]

theorem Avoids.part {name : String} {kind : Kind} {offset : Nat} {parts : List Node}
    (avoids : Avoids name (Node.mk kind offset parts)) : ∀ n ∈ parts, Avoids name n :=
  notMem_declaredNamesOfAll.mp avoids.parts

section statements

variable {name : String} {ns : List Node}

theorem lexicalNames_of_avoids (avoids : ∀ n ∈ ns, Avoids name n) :
    name ∉ ns.flatMap lexicalNames := by
  simpa using fun n member => (avoids n member).lexical

theorem lexicalTypes_of_avoids (avoids : ∀ n ∈ ns, Avoids name n) :
    name ∉ ns.flatMap lexicalTypes := by
  simpa using fun n member => (avoids n member).types

theorem boundTypes_of_avoids (avoids : ∀ n ∈ ns, Avoids name n) :
    name ∉ ns.flatMap boundTypes := by
  simpa using fun n member => (avoids n member).bound

theorem enumeratorNames_of_avoids (avoids : ∀ n ∈ ns, Avoids name n) :
    name ∉ ns.flatMap enumeratorNames := by
  simpa using fun n member => (avoids n member).enumerator

theorem hoistedNames_of_avoids (avoids : ∀ n ∈ ns, Avoids name n) :
    name ∉ hoistedNamesOfAll ns := by
  induction ns with
  | nil => simp [hoistedNamesOfAll]
  | cons n rest ih =>
    obtain ⟨first, others⟩ := List.forall_mem_cons.mp avoids
    rw [hoistedNamesOfAll, List.mem_append, not_or]
    exact ⟨first.hoisted, ih others⟩

/-- The clauses of a choice declare names only if statements in them do. -/
theorem clauses_of_avoids {names inClause : Node → List String}
    (inside : ∀ n, inClause n = [] ∨
      ∃ offset test statements, n = mk .case offset (test :: statements) ∧
        inClause n = statements.flatMap names)
    (statements : ∀ {ns : List Node}, (∀ n ∈ ns, Avoids name n) → name ∉ ns.flatMap names)
    (avoids : ∀ n ∈ ns, Avoids name n) : name ∉ ns.flatMap inClause := by
  rw [List.mem_flatMap]
  rintro ⟨n, member, declared⟩
  obtain none | ⟨_, _, _, rfl, here⟩ := inside n
  · rw [none] at declared
    cases declared
  · rw [here] at declared
    exact statements (fun n within => (avoids _ member).part n (.tail _ within)) declared

theorem clauseNames_of_avoids (avoids : ∀ n ∈ ns, Avoids name n) :
    name ∉ ns.flatMap clauseNames := by
  refine clauses_of_avoids (fun n => ?_) lexicalNames_of_avoids avoids
  unfold clauseNames
  split
  next => exact .inr ⟨_, _, _, rfl, rfl⟩
  next => exact .inl rfl

theorem clauseTypes_of_avoids (avoids : ∀ n ∈ ns, Avoids name n) :
    name ∉ ns.flatMap clauseTypes := by
  refine clauses_of_avoids (fun n => ?_) lexicalTypes_of_avoids avoids
  unfold clauseTypes
  split
  next => exact .inr ⟨_, _, _, rfl, rfl⟩
  next => exact .inl rfl

theorem classTypes_of_avoids {n : Node} (avoids : Avoids name n) : name ∉ n.classTypes := by
  unfold classTypes
  split
  next => exact boundTypes_of_avoids fun n within => avoids.part n (.tail _ within)
  next => exact List.not_mem_nil

end statements

end Node

namespace Scopes

open Node (Avoids)

/-- Whether scopes do not declare a name, neither as a value nor as a type. -/
structure Lack (name : String) (scopes : Scopes) : Prop where
  value : ¬scopes.HasValue name
  type : ¬scopes.HasType name

variable {scopes : Scopes} {name : String}

theorem Lack.not_declares (outside : Lack name scopes) : ¬scopes.Declares name :=
  fun declared => declared.elim outside.value fun types => outside.type types.2

theorem Lack.push (outside : Lack name scopes) {names types : List String} (new : name ∉ names)
    (newType : name ∉ types) (number : Nat) :
    Lack name { scopes with chain := ⟨number, names, types⟩ :: scopes.chain } where
  value declared := (hasValue_cons.mp declared).elim new outside.value
  type declared := (hasType_cons.mp declared).elim newType outside.type

theorem Lack.enter (outside : Lack name scopes) {names types : List String} (new : name ∉ names)
    (newType : name ∉ types) : Gives (Lack name) (scopes.enter names types) :=
  outside.push new newType

theorem Lack.enterTypes (outside : Lack name scopes) {types : List String} (new : name ∉ types) :
    Gives (Lack name) (scopes.enterTypes types) := by
  have typed : Lack name { scopes with inType := true } := ⟨outside.value, outside.type⟩
  exact typed.enter List.not_mem_nil new

theorem Lack.enterTwice (outside : Lack name scopes) {names types more moreTypes : List String}
    (new : name ∉ names) (newType : name ∉ types) (later : name ∉ more)
    (laterType : name ∉ moreTypes) :
    Gives (fun inner => Lack name inner.1 ∧ Lack name inner.2)
      (scopes.enterTwice names types more moreTypes) := by
  intro number
  have head := outside.push new newType number
  exact ⟨head, head.push later laterType number⟩

section statements

variable {statements : List Node} (avoids : ∀ n ∈ statements, Avoids name n)

include avoids

theorem notMem_body : name ∉ statements.flatMap Node.lexicalNames ++
    Node.hoistedNamesOfAll statements := by
  rw [List.mem_append, not_or]
  exact ⟨Node.lexicalNames_of_avoids avoids, Node.hoistedNames_of_avoids avoids⟩

theorem Lack.enterBlock (outside : Lack name scopes) :
    Gives (Lack name) (scopes.enterBlock statements) := by
  refine outside.enter ?_ (Node.lexicalTypes_of_avoids avoids)
  rw [List.mem_append, not_or]
  refine ⟨Node.lexicalNames_of_avoids avoids, fun declared => ?_⟩
  obtain ⟨n, member, function⟩ := List.mem_flatMap.mp (List.mem_of_mem_filter declared)
  exact (avoids n member).function function

theorem Lack.enterBody (outside : Lack name scopes) :
    Gives (Lack name) (scopes.enterBody statements) :=
  .bind (outside.enter (notMem_body avoids) (Node.lexicalTypes_of_avoids avoids)) fun _ inner =>
    .pure ⟨inner.value, inner.type⟩

theorem Lack.enterFunction (outside : Lack name scopes) {parameters types : List String}
    (new : name ∉ parameters) (newType : name ∉ types) :
    Gives (fun inner => Lack name inner.1 ∧ Lack name inner.2)
      (scopes.enterFunction parameters types statements) :=
  .bind (outside.enterTwice new newType (notMem_body avoids) (Node.lexicalTypes_of_avoids avoids))
    fun _ inner => .pure ⟨inner.1, inner.2.value, inner.2.type⟩

theorem Lack.enterHandler (outside : Lack name scopes) {thrown : List String}
    (new : name ∉ thrown) :
    Gives (fun inner => Lack name inner.1 ∧ Lack name inner.2)
      (scopes.enterHandler thrown statements) :=
  outside.enterTwice new List.not_mem_nil (Node.lexicalNames_of_avoids avoids)
    (Node.lexicalTypes_of_avoids avoids)

end statements

end Scopes

namespace Node

open Scopes

/-- Whether a name stands for nothing that is declared, wherever it stands. -/
def Outer (name : String) (identifiers : List Symbol) : Prop :=
  ∀ s ∈ identifiers, s.1 = name → s.2 = .unresolved

theorem outer_append {name : String} {first second : List Symbol} :
    Outer name (first ++ second) ↔ Outer name first ∧ Outer name second :=
  List.forall_mem_append

theorem outer_cons {name : String} {n : Node} {rest : List Node} :
    Outer name (allIdentifiers (n :: rest)) ↔
      Outer name n.identifiers ∧ Outer name (allIdentifiers rest) :=
  List.forall_mem_append

/-- A name that neither a tree declares nor the scopes around it stands for nothing that is declared. -/
theorem resolve_outer (name : String) :
    (∀ scopes n, Lack name scopes → Avoids name n →
      Gives (Outer name ·.identifiers) (resolve scopes n)) ∧
    ∀ scopes ns, Lack name scopes → (∀ n ∈ ns, Avoids name n) →
      Gives (Outer name <| allIdentifiers ·) (resolveAll scopes ns) := by
  have nil : Outer name (allIdentifiers []) := List.forall_mem_nil _
  have two {n n' : Node} (first : Outer name n.identifiers) (second : Outer name n'.identifiers) :
      Outer name (allIdentifiers [n, n']) := outer_cons.mpr ⟨first, outer_cons.mpr ⟨second, nil⟩⟩
  have three {n n' : Node} {rest : List Node} (first : Outer name n.identifiers)
      (second : Outer name n'.identifiers) (others : Outer name (allIdentifiers rest)) :
      Outer name (allIdentifiers (n :: n' :: rest)) :=
    outer_cons.mpr ⟨first, outer_cons.mpr ⟨second, others⟩⟩
  apply resolve.mutual_induct
  case case1 =>
    intro scopes x mark offset types ih outside avoids
    rw [resolve]
    refine .bind (ih outside avoids.part) fun _ done => .pure (List.forall_mem_cons.mpr ⟨?_, done⟩)
    rintro rfl
    exact mark_eq_unresolved.mpr outside.not_declares
  case case2 =>
    intro scopes names offset parts ih outside avoids
    rw [resolve]
    exact .bind (outside.enterTypes avoids.bound) fun inner within =>
      .bind (ih inner within avoids.part) fun _ done => .pure (by simpa [identifiers] using done)
  case case22 =>
    intro scopes kind offset parts
    intros
    rename_i named _ _ _ _ _ _ _ _ _ _ _ _ _ _ _ _ _ _ _ _ ih outside avoids
    have plain (parts : List Node) : identifiers (mk kind offset parts) = allIdentifiers parts := by
      cases kind <;> first | rfl | exact (named _ _ rfl).elim
    rw [resolve]
    · exact .bind (ih outside avoids.part) fun _ done => .pure (by rwa [plain])
    all_goals assumption
  case case23 =>
    intro scopes outside avoids
    rw [resolveAll]
    exact .pure nil
  case case24 =>
    intro scopes n rest ihFirst ihRest outside avoids
    obtain ⟨first, others⟩ := List.forall_mem_cons.mp avoids
    rw [resolveAll]
    exact .map₂ (ihFirst outside first) (ihRest outside others) fun _ _ done done' =>
      outer_cons.mpr ⟨done, done'⟩
  -- The types of a function stand at its head.
  case case3 =>
    intros
    rename_i ihParameters ihBody ihTypes outside avoids
    obtain ⟨parameters, rest⟩ := List.forall_mem_cons.mp avoids.part
    obtain ⟨body, types⟩ := List.forall_mem_cons.mp rest
    rw [resolve]
    exact .bind (outside.enterFunction body.part avoids.head (boundTypes_of_avoids types))
      fun inner within => .map₃ (ihParameters inner.1 within.1 parameters)
        (ihBody inner.2 within.2 body.part) (ihTypes inner.1 within.1 types)
          fun _ _ _ done done' done'' => three done done' done''
  case case4 =>
    intros
    rename_i other ihParameters ihBody ihTypes outside avoids
    obtain ⟨parameters, rest⟩ := List.forall_mem_cons.mp avoids.part
    obtain ⟨body, types⟩ := List.forall_mem_cons.mp rest
    rw [resolve]
    · exact .bind (outside.enterFunction (List.forall_mem_nil _) avoids.head
        (boundTypes_of_avoids types)) fun inner within =>
          .map₃ (ihParameters inner.1 within.1 parameters) (ihBody inner.2 within.2 body)
            (ihTypes inner.1 within.1 types) fun _ _ _ => three
    all_goals exact other
  case case5 =>
    intros
    rename_i ihParameters ihBody ihTypes outside avoids
    obtain ⟨parameters, rest⟩ := List.forall_mem_cons.mp avoids.part
    obtain ⟨body, types⟩ := List.forall_mem_cons.mp rest
    rw [resolve]
    exact .bind (outside.enterFunction body.part avoids.head (boundTypes_of_avoids types))
      fun inner within => .map₃ (ihParameters inner.1 within.1 parameters)
        (ihBody inner.2 within.2 body.part) (ihTypes inner.2 within.2 types)
          fun _ _ _ done done' done'' => three done done' done''
  case case6 =>
    intros
    rename_i other ihParameters ihBody ihTypes outside avoids
    obtain ⟨parameters, rest⟩ := List.forall_mem_cons.mp avoids.part
    obtain ⟨body, types⟩ := List.forall_mem_cons.mp rest
    rw [resolve]
    · exact .bind (outside.enterFunction (List.forall_mem_nil _) avoids.head
        (boundTypes_of_avoids types)) fun inner within =>
          .map₃ (ihParameters inner.1 within.1 parameters) (ihBody inner.2 within.2 body)
            (ihTypes inner.2 within.2 types) fun _ _ _ => three
    all_goals exact other
  -- The key of a constructor stands outside of its scope.
  case case7 =>
    intro scopes offset key parameters place statements ihKey ihParameters ihBody outside avoids
    have list := avoids.part _ (.tail _ (.head _))
    have body := (avoids.part _ (.tail _ (.tail _ (.head _)))).part
    rw [resolve]
    exact .bind (outside.enterFunction body avoids.head List.not_mem_nil) fun inner within =>
      .map₃ (ihKey outside (avoids.part _ (.head _))) (ihParameters inner.1 within.1 list)
        (ihBody inner.2 within.2 body) fun _ _ _ done done' done'' =>
          three done done' (outer_cons.mpr ⟨done'', nil⟩)
  case case8 =>
    intro scopes offset key parameters body other ihKey ihParameters ihBody outside avoids
    have list := avoids.part _ (.tail _ (.head _))
    have last := avoids.part _ (.tail _ (.tail _ (.head _)))
    rw [resolve]
    · exact .bind (outside.enterFunction (List.forall_mem_nil _) avoids.head List.not_mem_nil)
        fun inner within => .map₃ (ihKey outside (avoids.part _ (.head _)))
          (ihParameters inner.1 within.1 list) (ihBody inner.2 within.2 last)
          fun _ _ _ done done' done'' => three done done' (outer_cons.mpr ⟨done'', nil⟩)
    all_goals exact other
  case case9 =>
    intro scopes offset place statements ih outside avoids
    have statements := (avoids.part _ (.head _)).part
    rw [resolve]
    exact .bind (outside.enterBody statements) fun inner within =>
      .bind (ih inner within statements) fun _ done => .pure (outer_cons.mpr ⟨done, nil⟩)
  case case20 =>
    intro scopes offset items ih outside avoids
    rw [resolve]
    exact .bind (outside.enterBody avoids.part) fun inner within =>
      .bind (ih inner within avoids.part) fun _ done => .pure (by simpa [identifiers] using done)
  case case13 =>
    intro scopes offset statements ih outside avoids
    rw [resolve]
    exact .bind (outside.enterBlock avoids.part) fun inner within =>
      .bind (ih inner within avoids.part) fun _ done => .pure (by simpa [identifiers] using done)
  -- Both parts stand in a scope with the names that the first part declares.
  case case10 | case11 =>
    intros
    rename_i ihFirst ihSecond outside avoids
    have first := avoids.part _ (.head _)
    have second := avoids.part _ (.tail _ (.head _))
    rw [resolve]
    exact .bind (outside.enter avoids.head List.not_mem_nil) fun inner within =>
      .map₂ (ihFirst inner within first) (ihSecond inner within second) fun _ _ => two
  case case14 | case15 | case16 =>
    intros
    rename_i ihFirst ihSecond outside avoids
    obtain ⟨head, rest⟩ := List.forall_mem_cons.mp avoids.part
    rw [resolve]
    exact .bind (outside.enter head.lexical List.not_mem_nil) fun inner within =>
      .map₂ (ihFirst inner within head) (ihSecond inner within rest) fun _ _ done done' =>
        outer_cons.mpr ⟨done, done'⟩
  case case18 =>
    intro scopes offset pattern place statements ihPattern ihStatements outside avoids
    have pattern := avoids.part _ (.head _)
    have statements := (avoids.part _ (.tail _ (.head _))).part
    rw [resolve]
    exact .bind (outside.enterHandler statements avoids.head) fun inner within =>
      .map₂ (ihPattern inner.1 within.1 pattern) (ihStatements inner.2 within.2 statements)
        fun _ _ done done' => two done done'
  -- The first part stands outside of the new scope.
  case case12 =>
    intro scopes offset base members ihBase ihMembers outside avoids
    obtain ⟨base, members⟩ := List.forall_mem_cons.mp avoids.part
    rw [resolve]
    exact .bind (ihBase outside base) fun _ done =>
      .bind (outside.enter List.not_mem_nil (classTypes_of_avoids base)) fun inner within =>
        .bind (ihMembers inner within members) fun _ done' => .pure (outer_cons.mpr ⟨done, done'⟩)
  case case17 =>
    intro scopes offset subject clauses ihSubject ihClauses outside avoids
    obtain ⟨subject, clauses⟩ := List.forall_mem_cons.mp avoids.part
    rw [resolve]
    exact .bind (ihSubject outside subject) fun _ done =>
      .bind (outside.enter (clauseNames_of_avoids clauses) (clauseTypes_of_avoids clauses))
        fun inner within =>
          .bind (ihClauses inner within clauses) fun _ done' => .pure (outer_cons.mpr ⟨done, done'⟩)
  case case19 =>
    intro scopes isConst isDeclared offset name members ihName ihMembers outside avoids
    obtain ⟨name, members⟩ := List.forall_mem_cons.mp avoids.part
    rw [resolve]
    exact .bind (ihName outside name) fun _ done =>
      .bind (outside.enter (enumeratorNames_of_avoids members) List.not_mem_nil) fun inner within =>
        .bind (ihMembers inner within members) fun _ done' => .pure (outer_cons.mpr ⟨done, done'⟩)
  case case21 =>
    intro scopes isDeclared isGlobal offset name body ihName ihBody outside avoids
    have name := avoids.part _ (.head _)
    have body := avoids.part _ (.tail _ (.head _))
    rw [resolve]
    exact .bind (ihName outside name) fun _ done =>
      .bind (outside.enter body.lexical List.not_mem_nil) fun inner within =>
        .bind (ihBody inner within body) fun _ done' => .pure (two done done')

theorem Freer.free_of_outer {name : String} {before firsts seconds : List Symbol}
    (freer : Freer before firsts seconds) (outer : Outer name seconds) :
    Free name before seconds := by
  induction freer with
  | nil => exact .nil
  | cons _ _ ih =>
    obtain ⟨here, rest⟩ := List.forall_mem_cons.mp outer
    refine .cons (fun written => ?_) (ih rest)
    obtain ⟨rfl, -⟩ := Prod.mk.inj written
    exact Prod.ext rfl (here rfl)

theorem freeInAll_of_avoids {name : String} {scopes : Scopes} {ns : List Node}
    (outside : Lack name scopes) (avoids : ∀ n ∈ ns, Avoids name n) :
    FreeInAll name scopes ns :=
  fun number => (resolve_freer.2 scopes ns scopes (covers_refl scopes) number number).free_of_outer
    ((resolve_outer name).2 scopes ns outside avoids number)

end Node

namespace Module

/-- What a module declares in its own scope, it declares. -/
theorem ownNames_subset (m : Module) : m.ownNames ⊆ Node.declaredNamesOfAll m.items := by
  intro name own
  by_contra undeclared
  have avoids := Node.notMem_declaredNamesOfAll.mp undeclared
  rcases List.mem_append.mp own with lexical | hoisted
  · exact Node.lexicalNames_of_avoids avoids lexical
  · exact Node.hoistedNames_of_avoids avoids hoisted

/-- A name that a module declares nowhere is free in it. -/
theorem leavesFree_of_undeclared {m : Module} {name : String}
    (undeclared : name ∉ Node.declaredNamesOfAll m.items) : m.LeavesFree name := by
  have avoids := Node.notMem_declaredNamesOfAll.mp undeclared
  have outside : Scopes.Lack name m.ownScopes :=
    ⟨fun declared => undeclared (m.ownNames_subset (hasValue_ownScopes.mp declared)),
      fun declared => Node.lexicalTypes_of_avoids avoids (hasType_ownScopes.mp declared)⟩
  exact leavesFree_iff.mpr (Node.freeInAll_of_avoids outside avoids)

end Module

end ScriptBundle.Script
