import ScriptBundle.Proofs.Rewriting.Acceptance

/-! The calls of the dispatcher that linking inserts, and the modules that it reports. An import that is
not only about types becomes statements with one call, and a call of `require` that is redirected
becomes one; these calls, in the order in which they are met, name the reported modules. What is only
about types leaves nothing behind, and nothing is asked for its sake. -/
namespace ScriptBundle.Rewriting

open Script
open Node (IsKey IsName IsSpecifier IsImport IsExported IsDefault IsItem)

/-- The module that a call of the dispatcher is for, if the bundler wrote the call. -/
def dispatched? (n : Node) : Option Identity :=
  ((dispatchArguments? n).bind soleSpecifier?).map Path.mk

/-- The modules that the calls in trees are for, in the order of a visit. -/
def dispatchedIn (ns : List Node) : List Identity := (visitedAll ns).filterMap dispatched?

section visiting

theorem inVisitOrder_map {α β : Type} (f : α → β) (kind : Kind) (parts : List α) :
    inVisitOrder kind (parts.map f) = (inVisitOrder kind parts).map f := by
  unfold inVisitOrder
  split
  next heq =>
    match parts, heq with
    | [body, test], rfl => rfl
  next heq =>
    match parts, heq with
    | base :: members, rfl => simp
  next noLoop noClass =>
    split
    next => exact (noLoop _ _ rfl rfl).elim
    next => exact (noClass _ _ rfl rfl).elim
    next => rfl

theorem inVisitOrder_perm {α : Type} (kind : Kind) (parts : List α) :
    (inVisitOrder kind parts).Perm parts := by
  unfold inVisitOrder
  split
  next => exact .swap _ _ _
  next => exact List.perm_append_singleton _ _
  next => exact .refl _

theorem visitedEach_eq (ns : List Node) : visitedEach ns = ns.map visited := by
  induction ns with
  | nil => rfl
  | cons n rest ih => rw [visitedEach, ih, List.map_cons]

/-- What a visit finds in a node is what it finds in the parts, in their order, and the node. -/
theorem filterMap_visited {α : Type} (g : Node → Option α) (kind : Kind) (offset : Nat)
    (parts : List Node) : (visited (.mk kind offset parts)).filterMap g =
      (inVisitOrder kind (parts.map fun n => (visited n).filterMap g)).flatten ++
        (g (.mk kind offset parts)).toList := by
  have parts' : (inVisitOrder kind (visitedEach parts)).flatten.filterMap g =
      (inVisitOrder kind (parts.map fun n => (visited n).filterMap g)).flatten := by
    rw [List.filterMap_flatten, ← inVisitOrder_map, visitedEach_eq, List.map_map]
    rfl
  rw [visited, List.filterMap_append, parts', filterMap_cons_eq, List.filterMap_nil, List.append_nil]

theorem filterMap_visitedAll {α : Type} (g : Node → Option α) (ns : List Node) :
    (visitedAll ns).filterMap g = (ns.map fun n => (visited n).filterMap g).flatten := by
  rw [visitedAll, visitedEach_eq, List.filterMap_flatten, List.map_map]
  rfl

theorem filterMap_visitedAll_filter {α : Type} {g : Node → Option α} {p : Node → Bool} {ns : List Node}
    (others : ∀ n ∈ ns, p n = false → (visited n).filterMap g = []) :
    (visitedAll (ns.filter p)).filterMap g = (visitedAll ns).filterMap g := by
  induction ns with
  | nil => rfl
  | cons n rest ih =>
    have rest := ih fun n member => others n (.tail _ member)
    rw [visitedAll_cons, List.filterMap_append, ← rest]
    cases kept : p n with
    | true => rw [List.filter_cons_of_pos kept, visitedAll_cons, List.filterMap_append]
    | false =>
      rw [List.filter_cons_of_neg (by simp [kept]), others n (.head _) kept, List.nil_append]

/-- A visit meets the calls of the dispatcher that a tree has. -/
theorem dispatches_perm :
    (∀ n, ((visited n).filterMap dispatchArguments?).Perm (dispatches n)) ∧
    ∀ ns, ((visitedAll ns).filterMap dispatchArguments?).Perm (dispatchesOfAll ns) := by
  apply dispatches.mutual_induct
  case case1 =>
    intro kind offset parts ih
    rw [filterMap_visited, dispatches]
    refine List.perm_append_comm.trans (List.Perm.append_left _ (.trans ?_ ih))
    rw [filterMap_visitedAll]
    exact (inVisitOrder_perm kind _).flatten
  case case2 => exact .refl _
  case case3 =>
    intro n rest ihFirst ihRest
    rw [visitedAll_cons, List.filterMap_append, dispatchesOfAll]
    exact ihFirst.append ihRest

theorem dispatchedIn_eq (ns : List Node) : dispatchedIn ns =
    (((visitedAll ns).filterMap dispatchArguments?).filterMap soleSpecifier?).map Path.mk := by
  rw [List.filterMap_filterMap, List.map_filterMap]
  rfl

theorem dispatchedIn_append (ns others : List Node) :
    dispatchedIn (ns ++ others) = dispatchedIn ns ++ dispatchedIn others := by
  rw [dispatchedIn, visitedAll_append, List.filterMap_append]
  rfl

/-- A tree with one call of the dispatcher is for one module. -/
theorem dispatchedIn_single {ns : List Node} {identity : Identity}
    (single : dispatchesOfAll ns = [[Node.text identity.text]]) : dispatchedIn ns = [identity] := by
  have perm := dispatches_perm.2 ns
  rw [single, List.perm_singleton] at perm
  rw [dispatchedIn_eq, perm]
  rfl

end visiting

section redirecting

variable (target : String → Identity)

theorem dispatchArguments?_redirected {kind : Kind} {offset : Nat} {parts : List Node}
    (quiet : dispatchArguments? (.mk kind offset parts) = none) :
    dispatchArguments? (.mk kind offset (redirectedAll target parts)) = none := by
  cases parts with
  | nil => exact quiet
  | cons callee arguments =>
    cases kind with
    | call isOptional =>
      simp only [dispatchArguments?, redirectedAll, kind_redirected, ite_eq_right_iff] at quiet ⊢
      exact fun called => (Option.some_ne_none _ (quiet called)).elim
    | _ => rfl

/-- A call that asks for a module is left after its types, and nothing else in it asks. -/
theorem filterMap_visited_asking {kind : Kind} {offset : Nat} {parts : List Node} {specifier : String}
    (asks : specifier? (.mk kind offset parts) = some specifier) :
    (visited (.mk kind offset parts)).filterMap (fun n => (specifier? n).map target) =
      (visitedAll (parts.filter (·.isTypes))).filterMap (fun n => (specifier? n).map target) ++
        [target specifier] := by
  have here := asks
  obtain ⟨arguments, called, sole⟩ := Option.bind_eq_some_iff.mp asks
  obtain ⟨_, place, types, same, rfl⟩ := requireArguments?_eq_some called
  obtain ⟨raw, place', sole⟩ := soleSpecifier?_eq_some sole
  cases same
  rw [filterMap_visited, here, filterMap_visitedAll_filter, filterMap_visitedAll]
  · rfl
  · intro n member value
    obtain rfl | member := List.mem_cons.mp member
    · rfl
    · have argument : n ∈ types.filter (!·.isTypes) := by simpa [value] using member
      rw [sole, List.mem_singleton] at argument
      subst argument
      rfl

theorem filterMap_visited_dispatchWith {types : List Node} (only : ∀ n ∈ types, n.isTypes)
    (identity : Identity) : (visited (dispatchWith types identity)).filterMap dispatched? =
      (visitedAll types).filterMap dispatched? ++ [identity] := by
  have here : dispatched? (dispatchWith types identity) = some identity := by
    rw [dispatched?, dispatchArguments?_dispatchWith only]
    rfl
  rw [dispatchWith, Node.call] at here ⊢
  rw [filterMap_visited, here, filterMap_visitedAll]
  rfl

/-- In trees without calls of the dispatcher, those that are there after redirecting stand for the calls
of the global `require`, each where a visit leaves its call. -/
theorem dispatched_redirected :
    (∀ n, dispatches n = [] → (visited (redirected target n)).filterMap dispatched? =
      (visited n).filterMap fun n' => (specifier? n').map target) ∧
    ∀ ns, dispatchesOfAll ns = [] →
      ((redirectedAll target ns).map fun n => (visited n).filterMap dispatched?) =
        ns.map fun n => (visited n).filterMap fun n' => (specifier? n').map target := by
  apply redirected.mutual_induct
  case case1 =>
    intro kind offset parts ih quiet
    obtain ⟨here, inside⟩ := List.append_eq_nil_iff.mp quiet
    cases asks : specifier? (.mk kind offset parts) with
    | some specifier =>
      have only : ∀ n ∈ (redirectedAll target parts).filter (·.isTypes), n.isTypes :=
        fun n member => (List.mem_filter.mp member).2
      have same : (((redirectedAll target parts).filter (·.isTypes)).map fun n =>
          (visited n).filterMap dispatched?) = (parts.filter (·.isTypes)).map fun n =>
            (visited n).filterMap fun n' => (specifier? n').map target := by
        have types : (redirectedAll target parts).filter (·.isTypes) =
            redirectedAll target (parts.filter (·.isTypes)) := filter_redirectedAll id parts
        have each := ih inside
        rw [redirectedAll_eq, List.map_map, List.map_inj_left] at each
        rw [types, redirectedAll_eq, List.map_map]
        exact List.map_congr_left fun n member => each n (List.mem_filter.mp member).1
      rw [redirected_eq_replaced.1, replaced, asks, ← redirected_eq_replaced.2]
      dsimp only
      rw [filterMap_visited_dispatchWith only, filterMap_visited_asking target asks,
        filterMap_visitedAll, filterMap_visitedAll, same]
    | none =>
      have keeps : redirected target (.mk kind offset parts) =
          .mk kind offset (redirectedAll target parts) := by
        rw [redirected_eq_replaced.1, replaced, asks, redirected_eq_replaced.2]
      have quiet' : dispatchArguments? (.mk kind offset (redirectedAll target parts)) = none :=
        dispatchArguments?_redirected target (Option.toList_eq_nil_iff.mp here)
      rw [keeps, filterMap_visited, filterMap_visited, ih inside, asks, dispatched?, quiet']
      rfl
  case case2 => exact fun _ => rfl
  case case3 =>
    intro n rest ihFirst ihRest quiet
    obtain ⟨first, others⟩ := List.append_eq_nil_iff.mp quiet
    rw [redirectedAll, List.map_cons, List.map_cons, ihFirst first, ihRest others]

theorem dispatchedIn_redirectedAll {ns : List Node} (quiet : dispatchesOfAll ns = []) :
    dispatchedIn (redirectedAll target ns) = ((visitedAll ns).filterMap specifier?).map target := by
  rw [dispatchedIn, filterMap_visitedAll, (dispatched_redirected target).2 ns quiet,
    ← filterMap_visitedAll, List.map_filterMap]

end redirecting

section parts

variable (target : String → Identity) (types : List String)

/-- What linking makes of an item. -/
def linkedPart (n : Node) : List Node := redirectedAll target (lowered target types n)

/-- An item other than an import has no calls of the dispatcher after it is lowered. -/
theorem dispatches_lowered {n : Node} (other : n.isImport = false) (quiet : dispatches n = []) :
    dispatchesOfAll (lowered target types n) = [] := by
  unfold lowered
  cases known : ItemForm.ofNode types n with
  | error construct => rfl
  | ok form =>
    cases hasForm known with
    | importing | importTypes => cases other
    | value =>
      simpa [ItemForm.statements, ExportForm.statements, defaultProperty] using quiet
    | declaration => exact ExportForm.dispatches_ofDefault (by simpa using quiet)
    | names => exact ExportForm.dispatches_ofNames (by simp_all)
    | aliasType | nameTypes | typeDeclaration | asNamespace => rfl
    | statement => simpa [ItemForm.statements] using quiet

/-- Apart from imports, the calls in what becomes of an item are those that ask for modules in the
item. -/
theorem dispatchedIn_other {n : Node} (item : IsItem n) (other : n.isImport = false)
    (quiet : dispatches n = []) : dispatchedIn (linkedPart target types n) =
      ((visitedAll (running n)).filterMap specifier?).map target := by
  rw [linkedPart, dispatchedIn_redirectedAll target (dispatches_lowered target types other quiet),
    ← specifiers_callRequests, callRequests_lowered item, specifiers_callRequests]

/-- An import becomes statements with one call, unless it is only about types. -/
theorem dispatchedIn_import {n : Node} (shape : IsImport n) (quiet : dispatches n = []) :
    dispatchedIn (linkedPart target types n) = ((importedFrom? n).map target).toList := by
  rw [importedFrom?_eq (.ofImport shape) types, linkedPart, lowered]
  cases shape with
  | mk isTypeOnly offset specifier raw place parts attributes specifiers each whole =>
    cases isTypeOnly with
    | true => rfl
    | false =>
      have named : dispatchesOfAll specifiers = [] := by
        rw [dispatches_mk (by simp), dispatchesOfAll_cons, dispatchesOfAll_cons] at quiet
        exact (List.append_eq_nil_iff.mp (List.append_eq_nil_iff.mp quiet).2).2
      have form : ItemForm.ofNode types (.mk (.import false) offset
          (.mk (.string specifier raw) place parts :: attributes :: specifiers)) =
          .ok (.importing (.ofParts specifier specifiers)) := rfl
      rw [form]
      dsimp only [ItemForm.statements]
      cases needs : (ImportForm.ofParts specifier specifiers).specifier? with
      | none => rfl
      | some needed =>
        dsimp only
        rw [redirectedAll_statements target each]
        exact dispatchedIn_single (ImportForm.dispatches_statements named needs (target needed))

/-- Whether an item links modules and is only about types. -/
def linksTypes : Node → Bool
  | .mk (.import isTypeOnly) _ (_ :: _ :: specifiers) =>
    isTypeOnly || (!specifiers.isEmpty && specifiers.all isTypeSpecifier)
  | .mk (.alias _ isTypeOnly) _ _ => isTypeOnly
  | .mk (.exportNames isTypeOnly) _ _ => isTypeOnly
  | .mk .exportDeclaration _ [declaration] => isTypeLevel declaration
  | .mk .exportAsNamespace _ _ => true
  | _ => false

theorem linkedPart_types {n : Node} (item : IsItem n) (typed : linksTypes n = true) :
    linkedPart target types n = [] := by
  have nothing : lowered target types n = [] := by
    unfold linksTypes at typed
    split at typed
    next isTypeOnly offset source attributes specifiers =>
      cases item.isImport rfl with
      | mk _ _ specifier raw place parts _ _ each whole =>
        cases isTypeOnly with
        | true => rfl
        | false =>
          have unneeded := specifier?_ofParts_eq each specifier
          rw [if_pos (by simpa using typed)] at unneeded
          have form : ItemForm.ofNode types (.mk (.import false) offset
              (.mk (.string specifier raw) place parts :: attributes :: specifiers)) =
              .ok (.importing (.ofParts specifier specifiers)) := rfl
          rw [lowered, form]
          dsimp only [ItemForm.statements]
          rw [unneeded]
    next isExported isTypeOnly offset parts =>
      cases typed
      rfl
    next isTypeOnly offset parts =>
      cases typed
      cases item with
      | ofNames => rfl
      | ofImport shape => cases shape
      | ofOther shape => simp [Node.isOther] at shape
    next offset declaration =>
      rw [lowered, ItemForm.ofNode, if_pos typed]
      rfl
    next => rfl
    next => cases typed
  rw [linkedPart, nothing]
  rfl

theorem importedFrom?_types {n : Node} (item : IsItem n) (typed : linksTypes n = true) :
    importedFrom? n = none := by
  cases imports : n.isImport with
  | true =>
    cases item.isImport imports with
    | mk isTypeOnly offset specifier raw place parts attributes specifiers each whole =>
      cases isTypeOnly with
      | true => rfl
      | false => exact if_pos (by simpa [linksTypes] using typed)
  | false => exact importedFrom?_other imports

theorem running_types {n : Node} (typed : linksTypes n = true) : running n = [] := by
  unfold linksTypes at typed
  split at typed
  case h_6 => cases typed
  all_goals rfl

end parts

section asking

/-- The specifiers that linking a module asks for. -/
def asked (m : Module) : List String :=
  m.items.filterMap importedFrom? ++ (visitedAll (m.items.flatMap running)).filterMap specifier?

theorem specifiers_linkRequests {m : Module} (items : ∀ n ∈ m.items, IsItem n)
    (target : String → Identity) :
    (linkRequests target m).filterMap Request.specifier? = asked m := by
  have imports : (m.items.filterMap (itemRequest? (typeOnlyNames m.items))).filterMap
      Request.specifier? = m.items.filterMap importedFrom? := by
    rw [List.filterMap_filterMap]
    refine List.filterMap_congr fun n member => ?_
    have needs := importedFrom?_eq (items n member) (typeOnlyNames m.items)
    rw [itemRequest?_eq (items n member)]
    cases known : ItemForm.ofNode (typeOnlyNames m.items) n with
    | error construct =>
      rw [known] at needs
      rw [needs]
      rfl
    | ok form => cases importedFrom? n <;> rfl
  rw [linkRequests_eq items, List.filterMap_append, imports, specifiers_callRequests]
  rfl

variable {ask ask' : String → Except BundleError Identity} {target target' : String → Identity}

theorem perform_congr {requests : List Request} (importer : Path)
    (agree : ∀ specifier ∈ requests.filterMap Request.specifier?, ask' specifier = ask specifier)
    (o : Outcome) : perform ask' importer requests o = perform ask importer requests o := by
  have faults : requests.findSome? (Request.fault? ask' importer) =
      requests.findSome? (Request.fault? ask importer) := by
    rw [← List.head?_filterMap, ← List.head?_filterMap]
    refine congrArg List.head? (List.filterMap_congr fun request member => ?_)
    cases request with
    | refer specifier =>
      have same := agree specifier (List.mem_filterMap.mpr ⟨_, member, rfl⟩)
      rw [Request.fault?, Request.fault?, same]
    | refuse | warn => rfl
  have found : (requests.filterMap Request.specifier?).map (answered ask') =
      (requests.filterMap Request.specifier?).map (answered ask) :=
    List.map_congr_left fun specifier member => by rw [answered, answered, agree specifier member]
  rw [perform, perform, faults, Outcome.after, Outcome.after, found]

/-- Where trees ask for no module, it does not matter which module that is. -/
theorem replaced_congr :
    (∀ n, (∀ specifier ∈ (visited n).filterMap specifier?, target' specifier = target specifier) →
      replaced target' n = replaced target n) ∧
    ∀ ns, (∀ specifier ∈ (visitedAll ns).filterMap specifier?, target' specifier = target specifier) →
      replacedAll target' ns = replacedAll target ns := by
  apply replaced.mutual_induct
  case case1 =>
    intro kind offset parts specifier asks ih agree
    have here : target' specifier = target specifier :=
      agree specifier (List.mem_filterMap.mpr ⟨_, mem_visited.mpr (.inr rfl), asks⟩)
    rw [replaced, replaced, asks]
    dsimp only
    rw [here, ih]
    intro specifier member
    obtain ⟨n, inside, asks⟩ := List.mem_filterMap.mp member
    exact agree specifier (List.mem_filterMap.mpr ⟨n, mem_visited.mpr (.inl inside), asks⟩)
  case case2 =>
    intro kind offset parts none ih agree
    rw [replaced, replaced, none, ih]
    intro specifier member
    obtain ⟨n, inside, asks⟩ := List.mem_filterMap.mp member
    exact agree specifier (List.mem_filterMap.mpr ⟨n, mem_visited.mpr (.inl inside), asks⟩)
  case case3 => exact fun _ => rfl
  case case4 =>
    intro n rest ihFirst ihRest agree
    rw [visitedAll_cons, List.filterMap_append] at agree
    rw [replacedAll, replacedAll, ihFirst fun specifier member => agree specifier (by simp [member]),
      ihRest fun specifier member => agree specifier (by simp [member])]

theorem linkedPart_congr {n : Node} (item : IsItem n) (types : List String)
    (agree : ∀ specifier ∈ (importedFrom? n).toList ++ (visitedAll (running n)).filterMap specifier?,
      target' specifier = target specifier) :
    linkedPart target' types n = linkedPart target types n := by
  have imports := importedFrom?_eq item types
  have same : lowered target' types n = lowered target types n := by
    unfold lowered
    cases known : ItemForm.ofNode types n with
    | error construct => rfl
    | ok form =>
      rw [known] at imports
      cases form with
      | importing form =>
        dsimp only [ItemForm.statements]
        cases needs : form.specifier? with
        | none => rfl
        | some specifier =>
          have here : importedFrom? n = some specifier := imports.trans needs
          dsimp only
          rw [agree specifier (by simp [here])]
      | exporting | statement => rfl
  rw [linkedPart, linkedPart, same, redirected_eq_replaced.2, redirected_eq_replaced.2]
  refine replaced_congr.2 _ fun specifier member => agree specifier ?_
  rw [← specifiers_callRequests, callRequests_lowered item, specifiers_callRequests] at member
  exact List.mem_append_right _ member

/-- Linking looks at nothing but the answers to what is asked for. -/
theorem link_asks {m : Module} (items : ∀ n ∈ m.items, IsItem n) {disk disk' : Disk}
    {importer : Path} {s s' : Session} (agree : ∀ specifier ∈ asked m,
      s'.memo.answer disk' importer specifier = s.memo.answer disk importer specifier)
    (o : Outcome) : (((link disk' importer m).run o).runFrom s').1 =
      (((link disk importer m).run o).runFrom s).1 := by
  have found : ∀ specifier ∈ asked m, answered (s'.memo.answer disk' importer) specifier =
      answered (s.memo.answer disk importer) specifier :=
    fun specifier member => by rw [answered, answered, agree specifier member]
  have made : (linkedTo (answered (s'.memo.answer disk' importer)) m).items =
      (linkedTo (answered (s.memo.answer disk importer)) m).items := by
    rw [linkedTo_items, linkedTo_items]
    refine List.flatMap_congr fun n member => linkedPart_congr (items n member) _ ?_
    intro specifier needed
    refine found specifier ?_
    rw [asked, List.mem_append, visitedAll_flatMap, List.filterMap_flatMap]
    obtain imported | called := List.mem_append.mp needed
    · exact .inl (List.mem_filterMap.mpr ⟨n, member, Option.mem_toList.mp imported⟩)
    · exact .inr (List.mem_flatMap.mpr ⟨n, member, called⟩)
  have same : linkedTo (answered (s'.memo.answer disk' importer)) m =
      linkedTo (answered (s.memo.answer disk importer)) m :=
    congrArg (fun items => ({ m with items := items } : Module)) made
  have requests : linkRequests (answered (s'.memo.answer disk' importer)) m =
      linkRequests (answered (s.memo.answer disk importer)) m := by
    rw [linkRequests_eq items, linkRequests_eq items]
  rw [link_run, link_run, same, requests, perform_congr importer]
  rw [specifiers_linkRequests items]
  exact agree

end asking

section dependencies

theorem dispatchedIn_flatMap {α : Type} (f : α → List Node) (as : List α) :
    dispatchedIn (as.flatMap f) = as.flatMap fun a => dispatchedIn (f a) := by
  rw [dispatchedIn, visitedAll_flatMap, List.filterMap_flatMap]
  rfl

theorem running_of_import {n : Node} (imports : n.isImport = true) : running n = [] := by
  obtain ⟨kind, offset, parts⟩ := n
  cases kind <;> first | rfl | cases imports

variable (target : String → Identity) (types : List String) {items : List Node}
  (shapes : ∀ n ∈ items, IsItem n) (quiet : dispatchesOfAll items = [])
include shapes quiet

/-- The calls for imports, in the order of the imports. -/
theorem dispatchedIn_imports :
    dispatchedIn ((items.filter Node.isImport).flatMap (linkedPart target types)) =
      (items.filterMap importedFrom?).map target := by
  induction items with
  | nil => rfl
  | cons n rest ih =>
    obtain ⟨first, others⟩ := List.forall_mem_cons.mp shapes
    obtain ⟨here, later⟩ := List.append_eq_nil_iff.mp quiet
    rw [filterMap_cons_eq, List.map_append, ← ih others later]
    cases imports : n.isImport with
    | true =>
      rw [List.filter_cons_of_pos imports, List.flatMap_cons, dispatchedIn_append,
        dispatchedIn_import target types (first.isImport imports) here]
      cases importedFrom? n <;> rfl
    | false =>
      rw [List.filter_cons_of_neg (by simp [imports]), importedFrom?_other imports]
      rfl

/-- The other calls, in the order of a visit. -/
theorem dispatchedIn_others :
    dispatchedIn ((items.filter (!·.isImport)).flatMap (linkedPart target types)) =
      ((visitedAll (items.flatMap running)).filterMap specifier?).map target := by
  induction items with
  | nil => rfl
  | cons n rest ih =>
    obtain ⟨first, others⟩ := List.forall_mem_cons.mp shapes
    obtain ⟨here, later⟩ := List.append_eq_nil_iff.mp quiet
    rw [List.flatMap_cons, visitedAll_append, List.filterMap_append, List.map_append,
      ← ih others later]
    cases imports : n.isImport with
    | true =>
      rw [List.filter_cons_of_neg (by simp [imports]), running_of_import imports]
      rfl
    | false =>
      rw [List.filter_cons_of_pos (by simp [imports]), List.flatMap_cons, dispatchedIn_append,
        dispatchedIn_other target types first imports here]

end dependencies

/-- The modules that linking a module reports are those that the inserted calls of the dispatcher are
for: first the calls for imports, then those that stand for calls of `require` in the order of a visit,
each module once. What links modules and is only about types leaves nothing, and linking asks for no
specifier but those of imports of values and of calls that run: others are not remembered afterwards,
and whatever they refer to, the result is the same. -/
theorem link_dependencies {path : Path} {source : String} {m l : Module} {o : Outcome} {disk : Disk}
    {importer : Path} {s : Session} (parsed : parseModule path source = .ok m)
    (run : (((link disk importer m.resolved).run {}).runFrom s).1 = .ok (l, o)) :
    let target := answered (s.memo.answer disk importer)
    let items := m.resolved.items
    let part := linkedPart target (typeOnlyNames items)
    l.items = items.flatMap part ∧
    o.dependencies = (dispatchedIn ((items.filter Node.isImport).flatMap part) ++
      dispatchedIn ((items.filter (!·.isImport)).flatMap part)).eraseDups ∧
    (∀ n ∈ items, n.isImport = true →
      dispatchedIn (part n) = ((importedFrom? n).map target).toList) ∧
    dispatchedIn ((items.filter (!·.isImport)).flatMap part) =
      ((visitedAll (items.flatMap running)).filterMap specifier?).map target ∧
    o.dependencies.Nodup ∧
    (∀ identity, identity ∈ o.dependencies ↔ identity ∈ dispatchedIn l.items) ∧
    (∀ n ∈ items, linksTypes n = true → part n = [] ∧ importedFrom? n = none ∧ running n = []) ∧
    (∀ directory specifier, specifier ∉ asked m.resolved →
      (((link disk importer m.resolved).run {}).runFrom s).2.memo.get? directory specifier =
        s.memo.get? directory specifier) ∧
    ∀ (disk' : Disk) (s' : Session), (∀ specifier ∈ asked m.resolved,
        s'.memo.answer disk' importer specifier = s.memo.answer disk importer specifier) →
      (((link disk' importer m.resolved).run {}).runFrom s').1 = .ok (l, o) := by
  have shapes := Module.isItem_resolved (isItem_of_parsed parsed)
  have quiet := dispatches_marked.2 _ m.allMarked_resolved
  intro target items part
  obtain ⟨made, found⟩ : linkedTo target m.resolved = l ∧ o.dependencies =
      ((asked m.resolved).map target).eraseDups := by
    obtain ⟨made, found⟩ := link_ok run
    refine ⟨made, ?_⟩
    rw [← found, dependencies_after, specifiers_linkRequests shapes]
  have imports := dispatchedIn_imports target (typeOnlyNames items) shapes quiet
  have others := dispatchedIn_others target (typeOnlyNames items) shapes quiet
  have reported : o.dependencies = (dispatchedIn ((items.filter Node.isImport).flatMap part) ++
      dispatchedIn ((items.filter (!·.isImport)).flatMap part)).eraseDups := by
    rw [found, asked, List.map_append, ← imports, ← others]
  have whole : l.items = items.flatMap part := by
    rw [← made]
    exact linkedTo_items target m.resolved
  refine ⟨whole, reported, fun n member imports => ?_, others, ?_, fun identity => ?_,
    fun n member typed => ⟨linkedPart_types _ _ (shapes n member) typed,
      importedFrom?_types (shapes n member) typed, running_types typed⟩, ?_, ?_⟩
  · have here := dispatchesOfAll_eq_nil.mp quiet n member
    exact dispatchedIn_import target _ ((shapes n member).isImport imports) here
  · rw [reported]
    exact nodup_eraseDups _
  · rw [reported, whole, List.mem_eraseDups, dispatchedIn_flatMap, dispatchedIn_flatMap,
      dispatchedIn_flatMap]
    simp only [List.mem_append, List.mem_flatMap, List.mem_filter]
    constructor
    · rintro (⟨n, ⟨member, -⟩, inside⟩ | ⟨n, ⟨member, -⟩, inside⟩) <;> exact ⟨n, member, inside⟩
    · rintro ⟨n, member, inside⟩
      cases imports : n.isImport with
      | true => exact .inl ⟨n, ⟨member, imports⟩, inside⟩
      | false => exact .inr ⟨n, ⟨member, by simp [imports]⟩, inside⟩
  · intro directory specifier unasked
    refine ((link_performs m.resolved).memo {} s rfl).others directory specifier ?_
    rw [specifiers_linkRequests shapes]
    exact unasked
  · intro disk' s' agree
    rw [link_asks shapes agree]
    exact run

/-- A module that names one file in two ways, calls `require` in a class and in what it extends, and
imports a type from nowhere. -/
def several : String :=
  "import type \x7b T \x7d from './none';\n" ++
    "class C extends require('./b') \x7b m() \x7b return require('./a'); \x7d \x7d\n" ++
    "import \x7b x \x7d from './a.ts';\nexport type \x7b T \x7d;\nexport \x7b C \x7d;"

theorem link_dependencies_several : ∃ m l o, parseModule ⟨"/m.ts"⟩ several = .ok m ∧
    (((link pair ⟨"/m.ts"⟩ m.resolved).run {}).runFrom {}).1 = .ok (l, o) ∧
    asked m.resolved = ["./a.ts", "./a", "./b"] ∧ o.dependencies = [⟨"/a.ts"⟩, ⟨"/b.ts"⟩] ∧
    ∀ identity, identity ∈ dispatchedIn l.items ↔ identity ∈ [⟨"/a.ts"⟩, ⟨"/b.ts"⟩] := by
  have facts : ∃ m ∈ (parseModule ⟨"/m.ts"⟩ several).toOption,
      asked m.resolved = ["./a.ts", "./a", "./b"] ∧
      ∃ found ∈ (((link pair ⟨"/m.ts"⟩ m.resolved).run {}).runFrom {}).1.toOption,
        found.2.dependencies = [⟨"/a.ts"⟩, ⟨"/b.ts"⟩] := by
    decide +kernel
  obtain ⟨m, parsed, needs, ⟨l, o⟩, run, dependencies⟩ := facts
  have parsed := mem_toOption.mp parsed
  have run := mem_toOption.mp run
  obtain ⟨-, -, -, -, -, calls, -⟩ := link_dependencies parsed run
  refine ⟨m, l, o, parsed, run, needs, dependencies, fun identity => ?_⟩
  rw [← calls identity, dependencies]

end ScriptBundle.Rewriting
