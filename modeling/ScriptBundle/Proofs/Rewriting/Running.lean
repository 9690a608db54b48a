import ScriptBundle.Proofs.Rewriting.Importing

/-! What runs when a module runs: its statements, and what it exports as the default. Lowering keeps
these and adds nothing that redirecting has to look at, so what linking asks for can be listed from the
module as it was read. -/
namespace ScriptBundle.Rewriting

open Script
open Node (IsKey IsName IsSpecifier IsImport IsExported IsDefault IsItem)

/-- What an item leaves to be run. -/
def running : Node → List Node
  | .mk .exportDefault _ [value] => [value]
  | .mk .exportDefaultDeclaration _ [.mk (.functionDeclaration isDeclared) offset parts] =>
    [.mk (.functionDeclaration isDeclared) offset parts]
  | .mk .exportDefaultDeclaration _ [.mk (.classDeclaration isDeclared) offset parts] =>
    [.mk (.classDeclaration isDeclared) offset parts]
  | n => if importsOrExports n then [] else [n]

@[simp] theorem visitedAll_nil : visitedAll [] = [] := rfl

@[simp] theorem visitedAll_cons (n : Node) (rest : List Node) :
    visitedAll (n :: rest) = visited n ++ visitedAll rest := rfl

theorem visitedAll_append (ns others : List Node) :
    visitedAll (ns ++ others) = visitedAll ns ++ visitedAll others := by
  induction ns with
  | nil => rfl
  | cons n rest ih => simp [ih]

theorem visitedAll_flatMap {α : Type} (f : α → List Node) (as : List α) :
    visitedAll (as.flatMap f) = as.flatMap fun a => visitedAll (f a) := by
  induction as with
  | nil => rfl
  | cons a rest ih => simp [visitedAll_append, ih]

theorem callRequests_flatMap {α : Type} (f : α → List Node) (as : List α) :
    callRequests (as.flatMap f) = as.flatMap fun a => callRequests (f a) :=
  List.filterMap_flatMap

/-- Whether nodes of a kind are no calls and have their parts in the order of a visit. -/
def isPassed : Kind → Bool
  | .call _ | .doWhile | .classBody => false
  | _ => true

theorem visited_passed {kind : Kind} (passed : isPassed kind) (offset : Nat) (parts : List Node) :
    visited (.mk kind offset parts) = visitedAll parts ++ [.mk kind offset parts] := by
  have noLoop (body test : Node) (loop : kind = .doWhile) : parts = [body, test] → False := by
    rw [loop] at passed
    cases passed
  have noClass (base : Node) (members : List Node) (body : kind = .classBody) :
      parts = base :: members → False := by
    rw [body] at passed
    cases passed
  rw [visited, inVisitOrder_eq noLoop noClass]
  rfl

/-- A node that is passed asks for what its parts ask for. -/
theorem callRequests_visited {kind : Kind} (passed : isPassed kind) (offset : Nat)
    (parts : List Node) :
    callRequests (visited (.mk kind offset parts)) = callRequests (visitedAll parts) := by
  have nothing : callRequests [.mk kind offset parts] = [] := by
    have other : requireArguments? (.mk kind offset parts) = none := by
      unfold requireArguments?
      split
      next heq =>
        cases heq
        cases passed
      next => rfl
    simp [callRequests, nodeRequest?, specifier?, miscount?, other]
  rw [visited_passed passed, callRequests_append, nothing, List.append_nil]

section written

/-- Whether the code that linking writes has nodes of a kind, apart from leaves and calls. -/
def isWritten : Kind → Bool
  | .property | .shorthand | .objectPattern | .declarator | .variableList .. | .expression
  | .assign _ | .object | .spread | .member _ => true
  | _ => false

/-- Whether a property holds for the code that linking writes: for names and keys, for calls of the
dispatcher, and for what has such parts. -/
structure HoldsWritten (P : Node → Prop) : Prop where
  name {n : Node} (name : IsName n) : P n
  key {n : Node} (known : n = .absent ∨ IsKey n) : P n
  soFar : P exportsSoFar
  dispatch (identity : Identity) : P (dispatch identity)
  node {kind : Kind} (written : isWritten kind) {offset : Nat} {parts : List Node}
    (each : ∀ n ∈ parts, P n) : P (.mk kind offset parts)

namespace HoldsWritten

variable {P : Node → Prop} (holds : HoldsWritten P)
include holds

theorem property {key value : Node} (first : P key) (second : P value) :
    P (Node.property key value) := holds.node rfl (by simpa using ⟨first, second⟩)

theorem shorthand {name : Node} (known : P name) : P (Node.shorthand name) :=
  holds.node rfl (by simpa using ⟨known, holds.key (.inl rfl)⟩)

theorem constant {pattern value : Node} (first : P pattern) (second : P value) :
    P (constant pattern value) :=
  have declarator : P (.mk .declarator 0 [pattern, value]) :=
    holds.node rfl (by simpa using ⟨first, second⟩)
  holds.node rfl (by simpa using declarator)

theorem mergeExports {properties : List Node} (each : ∀ n ∈ properties, P n) :
    P (mergeExports properties) := by
  have spread : P (.mk .spread 0 [exportsSoFar]) := holds.node rfl (by simpa using holds.soFar)
  have object : P (Node.object (.mk .spread 0 [exportsSoFar] :: properties)) :=
    holds.node rfl (List.forall_mem_cons.mpr ⟨spread, each⟩)
  have assign : P (Node.assign exportsSoFar
      (Node.object (.mk .spread 0 [exportsSoFar] :: properties))) :=
    holds.node rfl (by simpa using ⟨holds.soFar, object⟩)
  exact holds.node rfl (by simpa using assign)

theorem pattern {n : Node} (specifier : IsSpecifier n) {b : ImportBinding}
    (bound : importBinding? n = some b) : P b.pattern := by
  cases specifier with
  | default offset place name mark =>
    cases bound
    exact holds.property (holds.key (.inr (.word ..))) (holds.name (.mk ..))
  | whole => cases bound
  | named isType offset place name mark known =>
    cases isType with
    | true => cases bound
    | false =>
      cases bound
      rw [ImportBinding.pattern]
      split
      next key other =>
        exact holds.property (holds.key (otherName?_eq other ▸ known)) (holds.name (.mk ..))
      next => exact holds.shorthand (holds.name (.mk ..))

/-- The statements for an import. -/
theorem ofImport {specifier : String} {specifiers : List Node}
    (each : ∀ n ∈ specifiers, IsSpecifier n) (identity : Identity) :
    ∀ n ∈ (ImportForm.ofParts specifier specifiers).statements identity, P n := by
  have patterns : ∀ n ∈ (specifiers.filterMap importBinding?).map ImportBinding.pattern, P n := by
    simp only [List.mem_map, List.mem_filterMap]
    rintro _ ⟨b, ⟨n, present, bound⟩, rfl⟩
    exact holds.pattern (each n present) bound
  have taken {source : Node} (known : P source) : ∀ n ∈ ImportForm.takeNames
      (specifiers.filterMap importBinding?) source, P n := by
    unfold ImportForm.takeNames
    split
    · simp
    · exact List.forall_mem_singleton.mpr (holds.constant (holds.node rfl patterns) known)
  unfold ImportForm.ofParts
  split
  next =>
    exact List.forall_mem_singleton.mpr (holds.node rfl (by simpa using holds.dispatch identity))
  next =>
    dsimp only
    split
    next => simp [ImportForm.statements]
    next =>
      cases whole : wholeBinding? specifiers with
      | none => exact taken (holds.dispatch identity)
      | some name =>
        obtain ⟨n, member, bound⟩ := List.mem_filterMap.mp (List.mem_of_getLast? whole)
        have known : P name := by
          cases each n member with
          | whole =>
            cases bound
            exact holds.name (.mk ..)
          | default | named => cases bound
        exact List.forall_mem_cons.mpr
          ⟨holds.constant known (holds.dispatch identity), taken known⟩

/-- The statement for a list of exports. -/
theorem ofNames {types : List String} {specifiers : List Node}
    (each : ∀ n ∈ specifiers, IsExported n) :
    ∀ n ∈ (ExportForm.ofNames types specifiers).statements, P n := by
  obtain ⟨leftOut, names⟩ := ofNames_eq types specifiers
  have properties : ∀ n ∈ (specifiers.filterMap (exportBinding? types)).map
      ExportBinding.property, P n := by
    simp only [List.mem_map, List.mem_filterMap]
    rintro _ ⟨b, ⟨n, present, bound⟩, rfl⟩
    cases each n present with
    | whole => cases bound
    | @named isType offset name other inside known =>
      have inner : P name := inside.elim holds.name fun key => holds.key (.inr key)
      unfold exportBinding? at bound
      split at bound
      next heq =>
        cases heq
        split_ifs at bound
        cases bound
        rw [ExportBinding.property]
        split
        next key outside => exact holds.property (holds.key (otherName?_eq outside ▸ known)) inner
        next => exact holds.shorthand inner
      next => cases bound
  rw [names, ExportForm.statements]
  split
  · simp
  · exact List.forall_mem_singleton.mpr (holds.mergeExports properties)

end HoldsWritten

end written

section quiet

/-- Whether redirecting a tree asks for nothing. -/
def AsksNothing (n : Node) : Prop := callRequests (visited n) = []

theorem asksNothing_dispatch (identity : Identity) : AsksNothing (dispatch identity) := rfl

theorem callRequests_eq_nil {ns : List Node} (each : ∀ n ∈ ns, AsksNothing n) :
    callRequests (visitedAll ns) = [] := by
  induction ns with
  | nil => rfl
  | cons n rest ih =>
    obtain ⟨first, others⟩ := List.forall_mem_cons.mp each
    rw [visitedAll_cons, callRequests_append, first, ih others]
    rfl

theorem asksNothing_mk {kind : Kind} {offset : Nat} {parts : List Node}
    (passed : isPassed kind) (each : ∀ n ∈ parts, AsksNothing n) :
    AsksNothing (.mk kind offset parts) :=
  (callRequests_visited passed offset parts).trans (callRequests_eq_nil each)

/-- Redirecting the code that linking writes asks for nothing. -/
theorem asksNothing_written : HoldsWritten AsksNothing where
  name name := by
    cases name
    rfl
  key known := by obtain rfl | ⟨text, place⟩ | ⟨value, raw, place⟩ := known <;> rfl
  soFar := rfl
  dispatch := asksNothing_dispatch
  node written _ _ each := by
    refine asksNothing_mk ?_ each
    unfold isWritten at written
    split at written <;> first | rfl | cases written

theorem callRequests_mergeExports (properties : List Node) :
    callRequests (visited (mergeExports properties)) = callRequests (visitedAll properties) := by
  have place : AsksNothing exportsSoFar := rfl
  have spread : AsksNothing (.mk .spread 0 [exportsSoFar]) := rfl
  rw [mergeExports, Node.statement, callRequests_visited (by rfl), visitedAll_cons,
    visitedAll_nil, List.append_nil, Node.assign, callRequests_visited (by rfl),
    visitedAll_cons, visitedAll_cons, visitedAll_nil, List.append_nil, callRequests_append, place,
    Node.object, callRequests_visited (by rfl), visitedAll_cons, callRequests_append,
    spread]
  rfl

end quiet

theorem running_of_statement {n : Node} (statement : importsOrExports n = false) :
    running n = [n] := by
  unfold running
  split
  case h_4 => simp [statement]
  all_goals cases statement

/-- An item that is neither a statement nor a default leaves nothing to be run. -/
theorem lowered_other {n : Node} (shape : n.isOther) (links : importsOrExports n)
    (target : String → Identity) (types : List String) :
    lowered target types n = [] ∧ running n = [] := by
  obtain ⟨kind, offset, parts⟩ := n
  cases kind with
  | exportDeclaration =>
    obtain ⟨declaration, rfl⟩ : ∃ declaration, parts = [declaration] := by
      match parts, shape with
      | [declaration], _ => exact ⟨declaration, rfl⟩
    refine ⟨?_, rfl⟩
    rw [lowered, ItemForm.ofNode]
    split_ifs <;> rfl
  | «alias» isExported isTypeOnly =>
    refine ⟨?_, rfl⟩
    rw [lowered, ItemForm.ofNode]
    split_ifs <;> rfl
  | exportAll | exportAssignment | exportAsNamespace => exact ⟨rfl, rfl⟩
  | «import» | exportNames | exportDefault | exportDefaultDeclaration => simp [Node.isOther] at shape
  | _ => cases links

/-- What becomes of an item. Nothing is run of an item that takes names or exports names; a default
keeps its value, and a statement stays as it is. -/
inductive Becomes (target : String → Identity) (types : List String) : Node → List Node → Prop
  | nothing {n : Node} (idle : running n = []) : Becomes target types n []
  | importing {n : Node} (idle : running n = []) (specifier : String) {specifiers : List Node}
    (each : ∀ n ∈ specifiers, IsSpecifier n) :
    Becomes target types n
      ((ImportForm.ofParts specifier specifiers).statements (target specifier))
  | names {n : Node} (idle : running n = []) {specifiers : List Node}
    (each : ∀ n ∈ specifiers, IsExported n) :
    Becomes target types n (ExportForm.ofNames types specifiers).statements
  | value (offset : Nat) (value : Node) :
    Becomes target types (.mk .exportDefault offset [value]) [mergeExports [defaultProperty value]]
  | declaration (offset : Nat) {declaration : Node} (shape : IsDefault declaration) :
    Becomes target types (.mk .exportDefaultDeclaration offset [declaration])
      (ExportForm.ofDefault declaration).statements
  | statement {n : Node} (statement : importsOrExports n = false) : Becomes target types n [n]

theorem becomes_lowered {n : Node} (item : IsItem n) (target : String → Identity)
    (types : List String) : Becomes target types n (lowered target types n) := by
  cases item with
  | ofImport shape =>
    cases shape with
    | mk isTypeOnly offset specifier raw place parts attributes specifiers each whole =>
      cases isTypeOnly with
      | true => exact .nothing rfl
      | false =>
        rw [lowered, ItemForm.ofNode, if_neg Bool.false_ne_true]
        dsimp only
        rw [statements_ofParts]
        exact .importing rfl specifier each
  | ofNames isTypeOnly offset source attributes specifiers each =>
    rw [lowered, ItemForm.ofNode]
    split_ifs
    · exact .nothing rfl
    · exact .nothing rfl
    · exact .nothing rfl
    · exact .names rfl each
  | ofValue offset value => exact .value offset value
  | ofDefault offset shape => exact .declaration offset shape
  | ofOther shape =>
    cases links : importsOrExports n with
    | false =>
      rw [lowered, ofNode_of_statement links]
      exact .statement links
    | true =>
      obtain ⟨none, idle⟩ := lowered_other shape links target types
      rw [none]
      exact .nothing idle

theorem callRequests_default (value : Node) :
    callRequests (visitedAll [mergeExports [defaultProperty value]]) =
      callRequests (visited value) := by
  have key : AsksNothing (Node.word "default") := rfl
  rw [visitedAll_cons, visitedAll_nil, List.append_nil, callRequests_mergeExports,
    visitedAll_cons, visitedAll_nil, List.append_nil, defaultProperty, Node.property,
    callRequests_visited (by rfl), visitedAll_cons, visitedAll_cons, visitedAll_nil,
    List.append_nil, callRequests_append, key, List.nil_append]

/-- The statements for a declaration that is the default ask for what it asks for, with or without a
name. -/
theorem callRequests_ofDefault {declaration : Node} (shape : IsDefault declaration) (offset : Nat) :
    callRequests (visitedAll (ExportForm.ofDefault declaration).statements) =
      callRequests (visitedAll (running (.mk .exportDefaultDeclaration offset [declaration]))) := by
  have declared {kind kind' : Kind} (passed : isPassed kind) (passed' : isPassed kind')
      (place : Nat) {name : Node} (known : name = .absent ∨ IsName name) (body : Node) :
      callRequests (visitedAll (ExportForm.statements (if name.isAbsent
        then .defaultDeclaration none (.mk kind' place [name, body])
        else .defaultDeclaration (some (.mk kind place [name, body])) name))) =
      callRequests (visitedAll [.mk kind place [name, body]]) := by
    obtain rfl | named := known
    · have missing : Node.absent.isAbsent = true := rfl
      rw [if_pos missing, visitedAll_cons, visitedAll_nil, List.append_nil,
        callRequests_visited passed, ← callRequests_visited passed' place [.absent, body]]
      exact callRequests_default _
    · have quiet : callRequests (visited name) = [] := asksNothing_written.name named
      have present : ¬name.isAbsent := by
        cases named
        simp [Node.isAbsent, Node.kind]
      rw [if_neg present]
      change callRequests (visitedAll [.mk kind place [name, body],
        mergeExports [defaultProperty name]]) = _
      rw [visitedAll_cons, callRequests_append, callRequests_default, quiet, visitedAll_cons,
        visitedAll_nil, List.append_nil, List.append_nil]
  cases shape with
  | function place function known => exact declared rfl rfl place known function
  | «class» place body known => exact declared rfl rfl place known body
  | interface place parts => rfl

/-- Redirecting what an item becomes asks for what the calls in the item ask for that are run. -/
theorem callRequests_lowered {n : Node} (item : IsItem n) (target : String → Identity)
    (types : List String) : callRequests (visitedAll (lowered target types n)) =
      callRequests (visitedAll (running n)) := by
  have becomes := becomes_lowered item target types
  generalize lowered target types n = left at becomes ⊢
  cases becomes with
  | nothing idle => rw [idle]
  | importing idle specifier each =>
    rw [idle, callRequests_eq_nil (asksNothing_written.ofImport each _)]
    rfl
  | names idle each =>
    rw [idle, callRequests_eq_nil (asksNothing_written.ofNames each)]
    rfl
  | value offset value =>
    rw [running, visitedAll_cons value, visitedAll_nil, List.append_nil]
    exact callRequests_default value
  | declaration offset shape => exact callRequests_ofDefault shape offset
  | statement statement => rw [running_of_statement statement]

/-- What linking asks for does not depend on which modules are found. -/
theorem linkRequests_eq {m : Module} (items : ∀ n ∈ m.items, IsItem n)
    (target : String → Identity) : linkRequests target m =
      m.items.filterMap (itemRequest? (typeOnlyNames m.items)) ++
        callRequests (visitedAll (m.items.flatMap running)) := by
  rw [linkRequests, visitedAll_flatMap, visitedAll_flatMap, callRequests_flatMap,
    callRequests_flatMap]
  refine congrArg _ (List.flatMap_congr fun n member => ?_)
  exact callRequests_lowered (items n member) target _

end ScriptBundle.Rewriting
