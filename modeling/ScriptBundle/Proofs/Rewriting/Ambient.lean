import ScriptBundle.Proofs.Rewriting.Inserted
import ScriptBundle.Proofs.Script.Lookups

/-! Declarations of types, and what linking finds. Nothing is left of such a declaration when types are
gone, and it asks for nothing by itself. It still decides two things before it goes: a name that it
declares hides the global one of that name, in the whole module or, if it is the name of a type alone, in
types, and calls in it are visited like all others. Where it does neither, linking finds the same without
it, since the requests of the other items depend only on where `require` is free in them. -/
namespace ScriptBundle.Rewriting

open Script
open Node (IsItem SameKind SameKinds FreeAlike remarked remarkedAll exists_of_remarked freeAlike_iff)

section calls

variable {remark : String → Mark → Mark} {n n' : Node}

theorem inVisitOrder_remarked {α : Type} (kind : Kind) (parts : List α) :
    inVisitOrder (kind.remarked remark) parts = inVisitOrder kind parts := by
  cases kind <;> rfl

/-- The order of a visit does not depend on marks. -/
theorem visited_remarked :
    (∀ n, visited (n.remarked remark) = (visited n).map (remarked remark)) ∧
    ∀ ns, visitedEach (remarkedAll remark ns) = (visitedEach ns).map (List.map (remarked remark)) := by
  apply visited.mutual_induct
  case case1 =>
    intro kind offset parts ih
    rw [remarked, visited, visited, ih, inVisitOrder_remarked, inVisitOrder_map, List.map_append,
      List.map_flatten]
    rfl
  case case2 => rfl
  case case3 =>
    intro n rest ihFirst ihRest
    rw [remarkedAll, visitedEach, visitedEach, ihFirst, ihRest, List.map_cons]

theorem running_remarked (n : Node) :
    running (n.remarked remark) = (running n).map (remarked remark) := by
  obtain ⟨kind, offset, parts⟩ := n
  cases kind with
  | exportDefault =>
    match parts with
    | [] | [value] | _ :: _ :: _ => rfl
  | exportDefaultDeclaration =>
    match parts with
    | [] => rfl
    | .mk kind place parts :: rest => cases rest <;> cases kind <;> rfl
  | _ => rfl

/-- The nodes that run are alike in items that are. -/
theorem visited_running_alike (alike : FreeAlike "require" n n') :
    List.Forall₂ (FreeAlike "require") (visitedAll (running n)) (visitedAll (running n')) := by
  have through (n : Node) :
      (visitedAll (running n)).map (remarked (onlyFree "require")) =
        visitedAll (running (n.remarked (onlyFree "require"))) := by
    rw [running_remarked, ← Node.remarkedAll_eq (running n), visitedAll, visitedAll, visited_remarked.2,
      List.map_flatten]
  rw [freeAlike_iff, through, through, show n.remarked _ = n'.remarked _ from alike]

theorem isTypes_sameKind (same : SameKind n n') : n.isTypes = n'.isTypes :=
  same.congr (fun _ _ _ _ _ => rfl) fun _ _ _ _ => rfl

/-- Where `require` is free at the same places, it is called with like arguments. -/
theorem requireArguments?_alike (alike : FreeAlike "require" n n') {arguments : List Node}
    (called : requireArguments? n = some arguments) : ∃ arguments',
      requireArguments? n' = some arguments' ∧
      List.Forall₂ (FreeAlike "require") arguments arguments' := by
  obtain ⟨offset, place, parts, rfl, rfl⟩ := requireArguments?_eq_some called
  obtain ⟨_, rfl, same⟩ := alike.exists_parts rfl
  cases same with
  | cons callee rest =>
    rw [callee.eq_free]
    have values (n n' : Node) (alike : FreeAlike "require" n n') : (!n.isTypes) ↔ (!n'.isTypes) := by
      rw [isTypes_sameKind alike.sameKind]
    exact ⟨_, rfl, List.rel_filter values rest⟩

theorem soleSpecifier?_alike {arguments arguments' : List Node} {specifier : String}
    (alike : List.Forall₂ (FreeAlike "require") arguments arguments')
    (sole : soleSpecifier? arguments = some specifier) :
    soleSpecifier? arguments' = some specifier := by
  obtain ⟨raw, place, rfl⟩ := soleSpecifier?_eq_some sole
  cases alike with
  | cons only none =>
    cases none
    obtain ⟨_, rfl, none⟩ := only.exists_parts rfl
    cases none
    rfl

theorem specifier?_alike (alike : FreeAlike "require" n n') : specifier? n = specifier? n' := by
  have one {n n' : Node} (alike : FreeAlike "require" n n') (specifier : String)
      (asks : specifier? n = some specifier) : specifier? n' = some specifier := by
    obtain ⟨arguments, called, sole⟩ := Option.bind_eq_some_iff.mp asks
    obtain ⟨arguments', called', same⟩ := requireArguments?_alike alike called
    rw [specifier?, called']
    exact soleSpecifier?_alike same sole
  exact Option.ext fun specifier => ⟨one alike specifier, one alike.symm specifier⟩

theorem miscount?_alike (alike : FreeAlike "require" n n') : miscount? n = miscount? n' := by
  have one {n n' : Node} (alike : FreeAlike "require" n n') (count : Nat)
      (counted : miscount? n = some count) : miscount? n' = some count := by
    obtain ⟨arguments, called, several⟩ := Option.bind_eq_some_iff.mp counted
    obtain ⟨arguments', called', same⟩ := requireArguments?_alike alike called
    rw [miscount?, called', Option.bind_some, ← same.length_eq]
    exact several
  exact Option.ext fun count => ⟨one alike count, one alike.symm count⟩

/-- Items where `require` is free at the same places ask for the same when they run. -/
theorem callRequests_alike (alike : FreeAlike "require" n n') :
    callRequests (visitedAll (running n)) = callRequests (visitedAll (running n')) :=
  filterMap_eq_of_forall₂ (visited_running_alike alike) fun n _ n' _ alike => by
    rw [nodeRequest?, nodeRequest?, specifier?_alike alike, miscount?_alike alike]

end calls

section items

variable {name : String} {n n' : Node}

theorem isTypeLevel_sameKind (same : SameKind n n') : isTypeLevel n = isTypeLevel n' :=
  same.congr (fun _ _ _ _ _ => rfl) fun _ _ _ _ => rfl

theorem exportedKeyword_sameKind (same : SameKind n n') : exportedKeyword n = exportedKeyword n' :=
  same.congr (fun _ _ _ _ _ => rfl) fun _ _ _ _ => rfl

theorem isAbsent_sameKind (same : SameKind n n') : n.isAbsent = n'.isAbsent :=
  same.congr (fun _ _ _ _ _ => rfl) fun _ _ _ _ => rfl

theorem isTypeSpecifier_sameKind (same : SameKind n n') :
    isTypeSpecifier n = isTypeSpecifier n' := by
  refine same.congr (fun kind _ _ _ _ => ?_) fun _ _ _ _ => rfl
  cases kind with
  | importNamed isType => cases isType <;> rfl
  | _ => rfl

theorem isStringNamed_alike (alike : FreeAlike name n n') (named : isStringNamed n) :
    isStringNamed n' := by
  unfold isStringNamed at named
  split at named
  next =>
    obtain ⟨_, rfl, parts⟩ := alike.exists_parts rfl
    cases parts with
    | cons string rest =>
      obtain ⟨_, rfl, -⟩ := string.exists_parts rfl
      rfl
  next => cases named

theorem any_isStringNamed_alike {ns ns' : List Node}
    (alike : List.Forall₂ (FreeAlike name) ns ns') :
    ns.any isStringNamed = ns'.any isStringNamed := by
  have same (n n' : Node) (alike : FreeAlike name n n') : isStringNamed n = isStringNamed n' :=
    Bool.eq_iff_iff.mpr ⟨isStringNamed_alike alike, isStringNamed_alike alike.symm⟩
  have each := map_eq_of_forall₂ alike same
  simpa only [List.any_map, Function.id_comp] using congrArg (List.any · id) each

theorem all_isTypeSpecifier_sameKind {ns ns' : List Node} (same : List.Forall₂ SameKind ns ns') :
    ns.all isTypeSpecifier = ns'.all isTypeSpecifier := by
  have each := map_eq_of_forall₂ same fun _ _ => isTypeSpecifier_sameKind
  simpa only [List.all_map, Function.id_comp] using congrArg (List.all · id) each

/-- An item that is like an unsupported one is unsupported, and for the same reason. -/
theorem unsupported_alike {construct : String} (refused : Unsupported n construct)
    (alike : FreeAlike name n n') : Unsupported n' construct := by
  cases refused with
  | declaration offset value =>
    obtain ⟨_, rfl, parts⟩ := alike.exists_parts rfl
    cases parts with
    | cons head tail =>
      cases tail
      rw [exportedKeyword_sameKind head.sameKind]
      exact .declaration offset (isTypeLevel_sameKind head.sameKind ▸ value)
  | reexport offset attributes specifiers from_ =>
    obtain ⟨_, rfl, parts⟩ := alike.exists_parts rfl
    cases parts with
    | cons source rest =>
      cases rest
      exact .reexport _ _ _ (isAbsent_sameKind source.sameKind ▸ from_)
  | stringNamed offset attributes here named =>
    obtain ⟨_, rfl, parts⟩ := alike.exists_parts rfl
    cases parts with
    | cons source rest =>
      cases rest with
      | cons _ specifiers =>
        exact .stringNamed _ _ (isAbsent_sameKind source.sameKind ▸ here)
          (any_isStringNamed_alike specifiers ▸ named)
  | all | «alias» | assignment =>
    obtain ⟨_, rfl, -⟩ := alike.exists_parts rfl
    constructor

theorem importedFrom?_alike (alike : FreeAlike name n n') : importedFrom? n = importedFrom? n' := by
  have one {n n' : Node} (alike : FreeAlike name n n') (specifier : String)
      (needs : importedFrom? n = some specifier) : importedFrom? n' = some specifier := by
    unfold importedFrom? at needs
    split at needs
    next =>
      obtain ⟨_, rfl, parts⟩ := alike.exists_parts rfl
      cases parts with
      | cons source rest =>
        obtain ⟨_, rfl, -⟩ := source.exists_parts rfl
        cases rest with
        | cons _ specifiers =>
          have same := specifiers.imp fun _ _ alike => alike.sameKind
          rw [all_isTypeSpecifier_sameKind same] at needs
          cases specifiers <;> exact needs
    next => cases needs
  exact Option.ext fun specifier => ⟨one alike specifier, one alike.symm specifier⟩

/-- Items where a name is free at the same places ask for the same when they are lowered. -/
theorem itemRequest?_alike (item : IsItem n) (item' : IsItem n') (alike : FreeAlike name n n')
    (types types' : List String) : itemRequest? types n = itemRequest? types' n' := by
  rw [itemRequest?_eq item, itemRequest?_eq item', importedFrom?_alike alike]
  cases known : ItemForm.ofNode types n with
  | error construct =>
    have refused := unsupported_alike ((unsupported_iff types construct).mp known) alike
    rw [(unsupported_iff types' construct).mpr refused]
  | ok form =>
    cases known' : ItemForm.ofNode types' n' with
    | error construct =>
      have refused := unsupported_alike ((unsupported_iff types' construct).mp known') alike.symm
      cases known.symm.trans ((unsupported_iff types construct).mpr refused)
    | ok form' => rfl

end items

section types

/-- Whether an item declares or links types alone, so that nothing of it is left when they are gone. -/
def declaresTypes (n : Node) : Bool := linksTypes n || isTypeLevel n

variable {n n' : Node}

/-- What is only about types asks for nothing when it is lowered. -/
theorem itemRequest?_types (item : IsItem n) (typed : declaresTypes n) (types : List String) :
    itemRequest? types n = none := by
  have needless : importedFrom? n = none := by
    obtain links | declares := (Bool.or_eq_true _ _).mp typed
    · exact importedFrom?_types item links
    · refine importedFrom?_other ?_
      obtain ⟨kind, offset, parts⟩ := n
      cases kind <;> first | rfl | cases declares
  rw [itemRequest?_eq item, needless]
  cases known : ItemForm.ofNode types n with
  | ok form => rfl
  | error construct =>
    cases (unsupported_iff types construct).mp known with
    | declaration offset value =>
      rw [declaresTypes, linksTypes, value] at typed
      cases typed
    | _ => cases typed

example : (parseModule ⟨"/m.ts"⟩ "import type T from 'a'").toOption.map
    (fun m => m.items.map (itemRequest? [])) = some [none] := by decide +kernel

/-- Whether an item is only about types shows in its kind and those of its parts. -/
theorem declaresTypes_sameKinds (same : SameKinds n n') (typed : declaresTypes n) :
    declaresTypes n' := by
  rw [declaresTypes, ← isTypeLevel_sameKind same.node, Bool.or_eq_true]
  refine ((Bool.or_eq_true _ _).mp typed).imp_left fun links => ?_
  have other : n.kind.isName = false := by
    obtain ⟨kind, offset, parts⟩ := n
    cases kind <;> first | rfl | cases links
  have kind := same.node.eq other
  have parts := same.parts
  obtain ⟨_, _, _⟩ := n'
  unfold linksTypes at links
  split at links
  all_goals obtain rfl := kind
  next =>
    cases parts with
    | cons _ rest =>
      cases rest with
      | cons _ specifiers =>
        rw [all_isTypeSpecifier_sameKind specifiers] at links
        cases specifiers <;> exact links
  next => exact links
  next => exact links
  next =>
    cases parts with
    | cons declaration rest =>
      cases rest
      exact (isTypeLevel_sameKind declaration).symm.trans links
  next => rfl
  next => cases links

end types

section linking

variable {m : Module} {i : Nat} {d : Node}

/-- Without an item that is only about types, declares no `require` and calls none, a module asks for
the same. A type `require` may be declared where the name does not stand in types. -/
theorem linkRequests_without (items : ∀ n ∈ m.items, IsItem n) (at_ : m.items[i]? = some d)
    (typed : declaresTypes d) (undeclared : "require" ∉ d.lexicalNames ++ d.hoistedNames)
    (unhidden : "require" ∈ d.lexicalTypes → "require" ∉ (m.without i).namesInTypes)
    (uncalled : ∀ d' ∈ m.resolved.items[i]?, ∀ n ∈ visitedAll (running d'),
      requireArguments? n = none) (target : String → Identity) :
    linkRequests target (m.without i).resolved = linkRequests target m.resolved := by
  obtain ⟨lexical, hoisted⟩ := not_or.mp (List.mem_append.not.mp undeclared)
  obtain ⟨d', resolved, same, alike⟩ := Module.resolved_without at_ lexical hoisted unhidden
  have shapes := Module.isItem_resolved items
  have shapes' : ∀ n ∈ (m.without i).resolved.items, IsItem n :=
    Module.isItem_resolved fun n member => items n (List.mem_of_mem_eraseIdx member)
  have member : d' ∈ m.resolved.items := List.mem_of_getElem? resolved
  have silent : itemRequest? (typeOnlyNames m.resolved.items) d' = none :=
    itemRequest?_types (shapes d' member) (declaresTypes_sameKinds same typed) _
  have quiet : callRequests (visitedAll (running d')) = [] := by
    refine List.filterMap_eq_nil_iff.mpr fun n inside => ?_
    have none := uncalled d' resolved n inside
    simp [nodeRequest?, specifier?, miscount?, none]
  have first : (m.without i).resolved.items.filterMap
        (itemRequest? (typeOnlyNames (m.without i).resolved.items)) =
      m.resolved.items.filterMap (itemRequest? (typeOnlyNames m.resolved.items)) := by
    have same := filterMap_eq_of_forall₂ alike fun n inside n' inside' alike =>
      itemRequest?_alike (shapes n (List.mem_of_mem_eraseIdx inside)) (shapes' n' inside') alike
        (typeOnlyNames m.resolved.items) (typeOnlyNames (m.without i).resolved.items)
    rw [← same, filterMap_eraseIdx resolved silent]
  have second : callRequests (visitedAll ((m.without i).resolved.items.flatMap running)) =
      callRequests (visitedAll (m.resolved.items.flatMap running)) := by
    have each := map_eq_of_forall₂ alike fun _ _ => callRequests_alike
    rw [visitedAll_flatMap, visitedAll_flatMap, callRequests_flatMap, callRequests_flatMap,
      List.flatMap_def, ← each, ← List.flatMap_def, flatMap_eraseIdx resolved quiet]
  rw [linkRequests_eq shapes', linkRequests_eq shapes, first, second]

end linking

section declared

/-- Whether a tree is no free name `require`, and no node in it calls one. -/
structure Uncalled (n : Node) : Prop where
  bound : n.kind ≠ .identifier "require" .unresolved
  inside : ∀ n' ∈ visited n, requireArguments? n' = none

/-- What runs of an item is part of it. -/
theorem mem_visited_of_running {n n' : Node} (inside : n' ∈ visitedAll (running n)) :
    n' ∈ visited n := by
  unfold running at inside
  split at inside
  case h_4 =>
    split_ifs at inside
    · cases inside
    · simpa using inside
  all_goals
    rw [mem_visited]
    exact .inl inside

theorem uncalled_mk {kind : Kind} (other : kind ≠ .identifier "require" .unresolved) (offset : Nat)
    {parts : List Node} (each : ∀ n ∈ parts, Uncalled n) : Uncalled (.mk kind offset parts) := by
  refine ⟨other, fun n' inside => ?_⟩
  obtain within | rfl := mem_visited.mp inside
  · obtain ⟨n, member, found⟩ := mem_visitedAll.mp within
    exact (each n member).inside n' found
  · unfold requireArguments?
    split
    next heq =>
      cases heq
      exact ((each _ List.mem_cons_self).bound rfl).elim
    next => rfl

/-- Where a scope declares `require`, no call inside is one of the global function. -/
theorem resolve_uncalled {scopes : Scopes} (declared : scopes.HasValue "require") (ns : List Node) :
    Scopes.Gives (fun ns' => ∀ n ∈ ns', Uncalled n) (Node.resolveAll scopes ns) := by
  intro number
  refine (Node.resolve_match (R := fun _ _ n _ => Uncalled n)
    (Q := fun _ _ ns' _ => ∀ n ∈ ns', Uncalled n) (Scopes.HasValue.lasts "require")
    ⟨?_, ?_, List.forall_mem_nil _, fun head tail => List.forall_mem_cons.mpr ⟨head, tail⟩⟩).2
    scopes ns false scopes declared number number
  · intro _ scopes scopes' declared x mark offset types firsts seconds each
    refine uncalled_mk (fun same => ?_) offset each
    obtain ⟨rfl, free⟩ := Kind.identifier.inj same
    exact Scopes.mark_eq_unresolved.mp free (.inl declared)
  · intro _ kind other offset parts firsts seconds each
    exact uncalled_mk (by rintro rfl; cases other) offset each

/-- A declaration of `require` for a whole module hides the global function from every call in it, also
a declaration of a type. -/
theorem uncalled_of_declared {m : Module} (declared : "require" ∈ m.ownNames) :
    ∀ n ∈ visitedAll (m.resolved.items.flatMap running), requireArguments? n = none := by
  intro n' inside
  rw [visitedAll_flatMap, List.mem_flatMap] at inside
  obtain ⟨n, member, runs⟩ := inside
  have each : ∀ n ∈ m.resolved.items, Uncalled n :=
    resolve_uncalled (Module.hasValue_ownScopes.mpr declared) m.items 1
  exact (each n member).inside n' (mem_visited_of_running runs)

end declared

/-- A module with calls before and after a type that has the name of the function they call. -/
def described : String :=
  "require('./a');\ninterface require \x7b (x: string): void; \x7d\nrequire();"

/-- What linking finds for a source beside the module on the disk, with an item that is only about types
and without it. -/
def foundBeside (source : String) (i : Nat) : Option (List Identity × List Identity) := do
  let m ← (parseModule ⟨"/m.ts"⟩ source).toOption
  let d ← m.items[i]?
  guard (declaresTypes d)
  let found (m : Module) : Option (List Identity) :=
    (((link lone ⟨"/m.ts"⟩ m.resolved).run {}).runFrom {}).1.toOption.map (·.2.dependencies)
  return (← found m, ← found (m.without i))

end ScriptBundle.Rewriting
