import ScriptBundle.Proofs.Rewriting.Requests

/-! Calls of `require` in a whole module. Every call that asks for a module is redirected, wherever it
stands, and nothing else changes; what is left asks for nothing more, so redirecting again changes
nothing. A module that has no imports and exports either is bundled as it is printed. -/
namespace ScriptBundle.Rewriting

open Script

variable {disk : Disk} {importer : Path}

theorem mem_inVisitOrder {α : Type} {kind : Kind} {parts : List α} {a : α} :
    a ∈ inVisitOrder kind parts ↔ a ∈ parts := by
  unfold inVisitOrder
  split
  next => simp [or_comm]
  next => simp [or_comm]
  next => rfl

theorem mem_visited {kind : Kind} {offset : Nat} {parts : List Node} {n : Node} :
    n ∈ visited (.mk kind offset parts) ↔ n ∈ visitedAll parts ∨ n = .mk kind offset parts := by
  simp [visited, visitedAll, mem_inVisitOrder]

theorem mem_visitedAll_cons {first n : Node} {rest : List Node} :
    n ∈ visitedAll (first :: rest) ↔ n ∈ visited first ∨ n ∈ visitedAll rest := by
  simp [visitedAll, visitedEach]

theorem mem_visitedAll {ns : List Node} {n : Node} :
    n ∈ visitedAll ns ↔ ∃ part ∈ ns, n ∈ visited part := by
  induction ns with
  | nil => simp [visitedAll, visitedEach]
  | cons first rest ih => rw [mem_visitedAll_cons, ih, List.exists_mem_cons_iff]

/-- A call for a module asks for none, and its types are what they were. -/
theorem specifier?_visited_dispatchWith {types : List Node}
    (quiet : ∀ n ∈ visitedAll types, specifier? n = none) (identity : Identity) :
    ∀ n ∈ visited (dispatchWith types identity), specifier? n = none := by
  intro n member
  rw [dispatchWith, Node.call, mem_visited, mem_visitedAll_cons, mem_visitedAll_cons] at member
  obtain (callee | text | inside) | rfl := member
  · obtain rfl : n = Node.generated dispatcher := List.mem_singleton.mp callee
    rfl
  · obtain rfl : n = Node.text identity.text := List.mem_singleton.mp text
    rfl
  · exact quiet n inside
  · rfl

/-- In a tree whose calls are redirected, no call asks for a module any more. -/
theorem specifier?_visited_redirected (target : String → Identity) :
    (∀ n, ∀ n' ∈ visited (redirected target n), specifier? n' = none) ∧
    ∀ ns, ∀ n' ∈ visitedAll (redirectedAll target ns), specifier? n' = none := by
  apply redirected.mutual_induct
  case case1 =>
    intro kind offset parts ih n' member
    rw [redirected, redirectedCall, ← specifier?] at member
    cases asks : specifier? (.mk kind offset (redirectedAll target parts)) with
    | none =>
      rw [asks, mem_visited] at member
      obtain inside | rfl := member
      · exact ih n' inside
      · exact asks
    | some specifier =>
      rw [asks] at member
      refine specifier?_visited_dispatchWith (fun n inside => ih n ?_) (target specifier) n' member
      obtain ⟨part, kept, inside⟩ := mem_visitedAll.mp inside
      exact mem_visitedAll.mpr ⟨part, (List.mem_filter.mp kept).1, inside⟩
  case case2 => simp [visitedAll, visitedEach, redirectedAll]
  case case3 =>
    intro n rest ihFirst ihRest n' member
    rw [redirectedAll, mem_visitedAll_cons] at member
    exact member.elim (ihFirst n') (ihRest n')

/-- A tree in which no call asks for a module stays as it is. -/
theorem replaced_eq_self (target : String → Identity) :
    (∀ n, (∀ n' ∈ visited n, specifier? n' = none) → replaced target n = n) ∧
    ∀ ns, (∀ n' ∈ visitedAll ns, specifier? n' = none) → replacedAll target ns = ns := by
  apply replaced.mutual_induct
  case case1 =>
    intro kind offset parts specifier asks _ quiet
    rw [quiet _ (mem_visited.mpr (.inr rfl))] at asks
    cases asks
  case case2 =>
    intro kind offset parts none ih quiet
    rw [replaced, none, ih fun n' inside => quiet n' (mem_visited.mpr (.inl inside))]
  case case3 => exact fun _ => rfl
  case case4 =>
    intro n rest ihFirst ihRest quiet
    rw [replacedAll, ihFirst fun n' inside => quiet n' (mem_visitedAll_cons.mpr (.inl inside)),
      ihRest fun n' inside => quiet n' (mem_visitedAll_cons.mpr (.inr inside))]

/-- Whether an item is about what a module imports or exports. -/
def importsOrExports (n : Node) : Bool :=
  match n.kind with
  | .import _ | .alias .. | .exportNames _ | .exportAll _ | .exportDeclaration | .exportDefault
  | .exportDefaultDeclaration | .exportAssignment | .exportAsNamespace => true
  | _ => false

theorem ofNode_of_statement {n : Node} (statement : importsOrExports n = false)
    (types : List String) : ItemForm.ofNode types n = .ok (.statement n) := by
  unfold ItemForm.ofNode
  split <;> first | rfl | cases statement

theorem lowerItems_statements {items : List Node} (types : List String)
    (statements : ∀ n ∈ items, importsOrExports n = false) :
    lowerItems disk importer types items = pure items := by
  induction items with
  | nil => rfl
  | cons n rest ih =>
    obtain ⟨first, others⟩ := List.forall_mem_cons.mp statements
    rw [lowerItems, ofNode_of_statement first, ih others]
    simp [lowerItem]

/-- The calls in nodes are redirected if the modules that they ask for are there. -/
theorem perform_calls {nodes : List Node} {o o' : Outcome} :
    perform (Resolution.answer disk · importer) importer (callRequests nodes) o = .ok o' ↔
      (∀ specifier ∈ nodes.filterMap specifier?,
        Resolution.answer disk specifier importer = .ok (target disk importer specifier)) ∧
      o.after (Resolution.answer disk · importer) importer (callRequests nodes) = o' := by
  have met (n : Node) : (∀ request, nodeRequest? n = some request →
      request.fault? (Resolution.answer disk · importer) importer = none) ↔
      ∀ specifier, specifier? n = some specifier →
        Resolution.answer disk specifier importer = .ok (target disk importer specifier) := by
    unfold nodeRequest? target
    cases specifier? n with
    | none => cases miscount? n <;> simp [Request.fault?]
    | some specifier =>
      cases found : Resolution.answer disk specifier importer <;>
        simp [Request.fault?, found, Except.toOption]
  rw [perform_eq_ok]
  refine and_congr_left fun _ => ?_
  simp only [callRequests, List.mem_filterMap, forall_exists_index, and_imp]
  constructor
  · intro each specifier n member asks
    exact (met n).mp (fun request asked => each request n member asked) specifier asks
  · intro each request n member asked
    exact (met n).mpr (fun specifier asks => each specifier n member asks) request asked

theorem after_calls (o : Outcome) (nodes : List Node) :
    o.after (Resolution.answer disk · importer) importer (callRequests nodes) =
      { dependencies := o.dependencies ++ Dependencies.fresh o.dependencies
          ((nodes.filterMap specifier?).map (target disk importer))
        warnings := o.warnings ++ (nodes.filterMap miscount?).map (.malformedRequire importer) } := by
  rw [Outcome.after, specifiers_callRequests, counts_callRequests]
  rfl

/-- Nodes that ask for no module can be left, and nothing is recorded but warnings. -/
theorem perform_quiet {nodes : List Node} (quiet : ∀ n ∈ nodes, specifier? n = none)
    (o : Outcome) : perform (Resolution.answer disk · importer) importer (callRequests nodes) o =
      .ok { o with
        warnings := o.warnings ++ (nodes.filterMap miscount?).map (.malformedRequire importer) } := by
  have nothing : nodes.filterMap specifier? = [] := List.filterMap_eq_nil_iff.mpr quiet
  rw [perform_calls, after_calls, nothing]
  simp [Dependencies.fresh]

/-- Redirecting from a session with a truthful memo. -/
theorem redirectAll_run (ns : List Node) (o : Outcome) {s : Session}
    (truthful : s.memo.Truthful disk) :
    (((redirectAll disk importer ns).run o).runFrom s).1 =
      (perform (Resolution.answer disk · importer) importer (callRequests (visitedAll ns)) o).map
        (replacedAll (target disk importer) ns, ·) := by
  have answers : s.memo.answer disk importer = (Resolution.answer disk · importer) :=
    funext truthful.answer_eq
  rw [(redirects_performs.2 ns).result o s answers, redirected_eq_replaced.2]
  rfl

/-- Linking a module without imports, exports and calls that ask for modules leaves it as it is. -/
theorem link_statements {m : Module} (statements : ∀ n ∈ m.items, importsOrExports n = false)
    (quiet : ∀ n ∈ visitedAll m.items, specifier? n = none) (o : Outcome) :
    ((link disk importer m).run o).alone = .ok (m, { o with
      warnings := o.warnings ++
        ((visitedAll m.items).filterMap miscount?).map (.malformedRequire importer) }) := by
  have redirects : link disk importer m =
      (do return { m with items := ← redirectAll disk importer m.items }) := by
    rw [link, lowerItems_statements _ statements, pure_bind]
  have items : Performs disk importer (Resolution.answer disk · importer)
    (redirectAll disk importer m.items) _ _ := redirects_performs.2 m.items
  rw [redirects]
  refine ((items.map fun items => ({ m with items := items } : Module)).result o {} rfl).trans ?_
  rw [perform_quiet quiet, redirected_eq_replaced.2, (replaced_eq_self _).2 _ quiet]
  rfl

/-- If the calls of `require` in a tree are redirected, exactly those that ask for a module were
replaced, in the order of a visit the modules were recorded and the other calls with a number of
arguments other than one were counted, and redirecting again changes nothing. A module without imports
and exports in which no call asks for a module is printed as if it was not linked. -/
theorem redirectAll_exact :
    (∀ (disk : Disk) (importer : Path) (s : Session) (ns ns' : List Node) (o o' : Outcome),
      s.memo.Truthful disk →
      (((redirectAll disk importer ns).run o).runFrom s).1 = .ok (ns', o') →
      (∀ specifier ∈ (visitedAll ns).filterMap specifier?,
        Resolution.answer disk specifier importer = .ok (target disk importer specifier)) ∧
      ns' = replacedAll (target disk importer) ns ∧
      o'.dependencies = o.dependencies ++ Dependencies.fresh o.dependencies
        (((visitedAll ns).filterMap specifier?).map (target disk importer)) ∧
      o'.warnings = o.warnings ++
        ((visitedAll ns).filterMap miscount?).map (.malformedRequire importer) ∧
      ∀ (s₂ : Session) (o₂ : Outcome), s₂.memo.Truthful disk →
        (((redirectAll disk importer ns').run o₂).runFrom s₂).1 = .ok (ns', { o₂ with
          warnings := o₂.warnings ++
            ((visitedAll ns').filterMap miscount?).map (.malformedRequire importer) })) ∧
    ∀ (style : Style) (disk : Disk) (path : Path) (source : String) (m : Module) (s : Session),
      parseModule path source = .ok m → s.memo.Truthful disk →
      (∀ n ∈ m.resolved.items, importsOrExports n = false) →
      (∀ n ∈ visitedAll m.resolved.items, specifier? n = none) →
      ∃ text outcome, printSource style path source = .ok text ∧ outcome.dependencies = [] ∧
        ((link disk path m.resolved).run {}).alone = .ok (m.resolved, outcome) ∧
        ((rewriteSource style disk path source).runFrom s).1 = .ok (text, outcome) := by
  constructor
  · intro disk importer s ns ns' o o' truthful run
    rw [redirectAll_run ns o truthful] at run
    cases left : perform (Resolution.answer disk · importer) importer
        (callRequests (visitedAll ns)) o with
    | error e =>
      rw [left] at run
      cases run
    | ok found =>
      rw [left] at run
      cases run
      obtain ⟨answered, rfl⟩ := perform_calls.mp left
      rw [after_calls]
      refine ⟨answered, rfl, rfl, rfl, fun s₂ o₂ truthful₂ => ?_⟩
      have quiet := (specifier?_visited_redirected (target disk importer)).2 ns
      rw [redirected_eq_replaced.2] at quiet
      rw [redirectAll_run _ o₂ truthful₂, perform_quiet quiet, (replaced_eq_self _).2 _ quiet]
      rfl
  · intro style disk path source m s parsed truthful statements quiet
    have linked : ((link disk path m.resolved).run {}).alone = _ :=
      link_statements statements quiet {}
    refine ⟨m.resolved.plain.print style, _, ?_, rfl, linked, ?_⟩
    · rw [printSource, parsed]
      rfl
    · rw [(Steady.rewriteSource style path source).result s truthful, rewriteSource_alone, parsed]
      change Except.map _ ((link disk path m.resolved).run {}).alone = _
      rw [linked]
      rfl

/-- A disk with two modules in its root. -/
def pair : Disk where
  entries := [(["a.ts"], .file "".toUTF8), (["b.ts"], .file "".toUTF8)]
  workingDirectory := []

/-- Calls in a body, one of them in a type, and in the test of its loop, which is visited first. -/
def looping : String :=
  "do \x7b let b: \x7b [require(require('./b'))]: 1 \x7d; require(); \x7d while (require('./a'));"

/-- A module whose calls ask for no modules. -/
def settled : String := "const load = (name) => require(name, require());"

theorem redirectAll_exact_looping :
    (∃ m ns' o', parseModule ⟨"/m.ts"⟩ looping = .ok m ∧
      (((redirectAll pair ⟨"/m.ts"⟩ m.resolved.items).run {}).runFrom {}).1 = .ok (ns', o') ∧
      ns' = replacedAll (target pair ⟨"/m.ts"⟩) m.resolved.items ∧
      o'.dependencies = [⟨"/a.ts"⟩, ⟨"/b.ts"⟩] ∧
      o'.warnings = [.malformedRequire ⟨"/m.ts"⟩ 0]) ∧
    ∃ m text outcome, parseModule ⟨"/m.ts"⟩ settled = .ok m ∧
      (∀ n ∈ m.resolved.items, importsOrExports n = false) ∧
      (∀ n ∈ visitedAll m.resolved.items, specifier? n = none) ∧
      printSource ⟨.es2020, false⟩ ⟨"/m.ts"⟩ settled = .ok text ∧ outcome.dependencies = [] ∧
      ((rewriteSource ⟨.es2020, false⟩ pair ⟨"/m.ts"⟩ settled).runFrom {}).1 =
        .ok (text, outcome) := by
  have truthful : ({} : Session).memo.Truthful pair := Memo.truthful_empty pair
  constructor
  · have facts : ∃ m ∈ (parseModule ⟨"/m.ts"⟩ looping).toOption,
        ∃ found ∈ (((redirectAll pair ⟨"/m.ts"⟩ m.resolved.items).run {}).runFrom {}).1.toOption,
          found.2.dependencies = [⟨"/a.ts"⟩, ⟨"/b.ts"⟩] ∧
          found.2.warnings = [.malformedRequire ⟨"/m.ts"⟩ 0] := by
      decide +kernel
    obtain ⟨m, parsed, ⟨ns', o'⟩, run, dependencies, warnings⟩ := facts
    have run := mem_toOption.mp run
    obtain ⟨-, same, -⟩ := redirectAll_exact.1 pair ⟨"/m.ts"⟩ {} _ ns' {} o' truthful run
    exact ⟨m, ns', o', mem_toOption.mp parsed, run, same, dependencies, warnings⟩
  · have facts : ∃ m ∈ (parseModule ⟨"/m.ts"⟩ settled).toOption,
        (∀ n ∈ m.resolved.items, importsOrExports n = false) ∧
        ∀ n ∈ visitedAll m.resolved.items, specifier? n = none := by
      decide +kernel
    obtain ⟨m, parsed, statements, quiet⟩ := facts
    have parsed := mem_toOption.mp parsed
    obtain ⟨text, outcome, printed, nothing, -, rewritten⟩ := redirectAll_exact.2 ⟨.es2020, false⟩
      pair ⟨"/m.ts"⟩ settled m {} parsed truthful statements quiet
    exact ⟨m, text, outcome, parsed, statements, quiet, printed, nothing, rewritten⟩

end ScriptBundle.Rewriting
