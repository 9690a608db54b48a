import ScriptBundle.Proofs.Rewriting.Requests
import ScriptBundle.Proofs.Script.Undeclared

/-! Names that linking writes into a module. They are written as they are, whatever the module declares,
so a module may bind them by accident. It does so only where it declares the name itself: linking adds no
declaration, and moves no call into a scope that was not around it. -/
namespace ScriptBundle.Rewriting

open Script
open Node (Free identifiers allIdentifiers)

variable {disk : Disk} {importer : Path}

/-- A module with its calls of `require` redirected and with its imports and exports as they are. -/
def callsRedirected (disk : Disk) (importer : Path) (m : Module) : Module :=
  { m with items := redirectedAll (target disk importer) m.items }

theorem identifiers_dispatchWith (types : List Node) (identity : Identity) :
    (dispatchWith types identity).identifiers = (dispatcher, .unknown) :: allIdentifiers types := rfl

theorem declaredNames_dispatchWith (types : List Node) (identity : Identity) :
    (dispatchWith types identity).declaredNames = Node.declaredNamesOfAll types := rfl

/-- Redirecting writes no name but that of the dispatcher. -/
theorem redirected_writes (answers : String → Identity) :
    (∀ n, n.isMarked → ∀ s ∈ (redirected answers n).identifiers, s.2 = .unknown → s.1 = dispatcher) ∧
    ∀ ns, Node.allMarked ns → ∀ s ∈ allIdentifiers (redirectedAll answers ns),
      s.2 = .unknown → s.1 = dispatcher := by
  apply redirected.mutual_induct
  case case1 =>
    intro kind offset parts ih marked
    simp only [Node.isMarked, Bool.and_eq_true] at marked
    rw [redirected]
    obtain kept | ⟨-, identity, dispatched⟩ :=
      redirectedCall_eq answers (.mk kind offset (redirectedAll answers parts))
    · rw [kept]
      cases kind with
      | identifier name mark =>
        refine List.forall_mem_cons.mpr ⟨fun unknown => ?_, ih marked.2⟩
        obtain rfl : mark = .unknown := unknown
        cases marked.1
      | _ => exact ih marked.2
    · rw [dispatched, identifiers_dispatchWith]
      refine List.forall_mem_cons.mpr ⟨fun _ => rfl, fun s member => ?_⟩
      obtain ⟨n, types, inside⟩ := Node.mem_allIdentifiers.mp member
      exact ih marked.2 s (Node.mem_allIdentifiers.mpr ⟨n, (List.mem_filter.mp types).1, inside⟩)
  case case2 => simp [redirectedAll, allIdentifiers]
  case case3 =>
    intro n rest ihFirst ihRest marked
    simp only [Node.allMarked, Bool.and_eq_true] at marked
    rw [redirectedAll, allIdentifiers, List.forall_mem_append]
    exact ⟨ihFirst marked.1, ihRest marked.2⟩

/-- Redirecting declares nothing. -/
theorem declaredNames_redirected (answers : String → Identity) :
    (∀ n, (redirected answers n).declaredNames ⊆ n.declaredNames) ∧
    ∀ ns, Node.declaredNamesOfAll (redirectedAll answers ns) ⊆ Node.declaredNamesOfAll ns := by
  apply redirected.mutual_induct
  case case1 =>
    intro kind offset parts ih
    rw [redirected]
    obtain kept | ⟨-, identity, dispatched⟩ :=
      redirectedCall_eq answers (.mk kind offset (redirectedAll answers parts))
    · rw [kept]
      exact Node.declaredNames_subset (redirected_alike.2 parts) ih
    · rw [dispatched, declaredNames_dispatchWith]
      intro name declared
      rw [Node.declaredNamesOfAll_eq] at declared ih
      obtain ⟨n, types, inside⟩ := List.mem_flatMap.mp declared
      exact List.mem_append_right _ (ih (List.mem_flatMap.mpr ⟨n, (List.mem_filter.mp types).1, inside⟩))
  case case2 => exact List.Subset.refl _
  case case3 =>
    intro n rest ihFirst ihRest
    exact List.append_subset.mpr ⟨List.subset_append_of_subset_left _ ihFirst,
      List.subset_append_of_subset_right _ ihRest⟩

theorem lexicalNames_redirectedAll (answers : String → Identity) (ns : List Node) :
    (redirectedAll answers ns).flatMap Node.lexicalNames = ns.flatMap Node.lexicalNames :=
  Node.lexicalNamesOfAll_congr (redirected_alike.2 ns)

theorem lexicalTypes_redirectedAll (answers : String → Identity) (ns : List Node) :
    (redirectedAll answers ns).flatMap Node.lexicalTypes = ns.flatMap Node.lexicalTypes :=
  Node.lexicalTypesOfAll_congr (redirected_alike.2 ns)

theorem hoistedNames_redirectedAll (answers : String → Identity) (ns : List Node) :
    Node.hoistedNamesOfAll (redirectedAll answers ns) = Node.hoistedNamesOfAll ns :=
  Node.hoistedNamesOfAll_congr (redirected_alike.2 ns)

theorem ownNames_callsRedirected (m : Module) :
    (callsRedirected disk importer m).ownNames = m.ownNames := by
  rw [Module.ownNames, Module.ownNames, callsRedirected, lexicalNames_redirectedAll,
    hoistedNames_redirectedAll]

/-- What the statements declare that items are lowered to, the items declare. -/
theorem flatMap_lowered_subset {lower : Node → List Node} {names : Node → List String}
    {items : List Node} (within : ∀ n, ∀ n' ∈ lower n, names n' ⊆ names n) :
    (items.flatMap lower).flatMap names ⊆ items.flatMap names := by
  rw [List.flatMap_assoc]
  intro name declared
  obtain ⟨n, member, declared⟩ := List.mem_flatMap.mp declared
  obtain ⟨n', lowered, declared⟩ := List.mem_flatMap.mp declared
  exact List.mem_flatMap.mpr ⟨n, member, within n n' lowered declared⟩

/-- The scope of the linked module declares no name that the scope of the module does not declare. -/
theorem covers_linked (m : Module) : Scopes.Covers (callsRedirected disk importer m).ownScopes
    (linked disk importer m).ownScopes := by
  have lexical : (linked disk importer m).items.flatMap Node.lexicalNames ⊆
      (callsRedirected disk importer m).items.flatMap Node.lexicalNames := by
    rw [linked, callsRedirected, lexicalNames_redirectedAll, lexicalNames_redirectedAll]
    exact flatMap_lowered_subset fun n n' lowered => (within_lowered n' lowered).lexical
  have types : (linked disk importer m).items.flatMap Node.lexicalTypes ⊆
      (callsRedirected disk importer m).items.flatMap Node.lexicalTypes := by
    rw [linked, callsRedirected, lexicalTypes_redirectedAll, lexicalTypes_redirectedAll]
    exact flatMap_lowered_subset fun n n' lowered => (within_lowered n' lowered).types
  have hoisted : Node.hoistedNamesOfAll (linked disk importer m).items ⊆
      Node.hoistedNamesOfAll (callsRedirected disk importer m).items := by
    rw [linked, callsRedirected, hoistedNames_redirectedAll, hoistedNames_redirectedAll,
      Node.hoistedNamesOfAll_eq, Node.hoistedNamesOfAll_eq]
    exact flatMap_lowered_subset fun n n' lowered => (within_lowered n' lowered).hoisted
  refine ⟨fun name declared => ?_, fun name declared => ?_, lexical, rfl⟩
  · rw [Module.hasValue_ownScopes, Module.ownNames, List.mem_append] at declared ⊢
    exact declared.imp (@lexical name) (@hoisted name)
  · rw [Module.hasType_ownScopes] at declared ⊢
    exact types declared

/-- Linking leaves a name free if the module does not declare it and the scopes around redirected calls
do not either. -/
theorem linked_leavesFree {name : String} {m : Module} (own : name ∉ m.ownNames)
    (calls : (callsRedirected disk importer m).LeavesFree name) :
    (linked disk importer m).LeavesFree name := by
  have undeclared : ¬(callsRedirected disk importer m).ownScopes.Declares name := by
    rwa [Module.declares_ownScopes, ownNames_callsRedirected]
  rw [Module.leavesFree_iff] at calls ⊢
  refine Node.FreeInAll.narrow ?_ (covers_linked m)
  refine freeInAll_redirectedAll.mpr fun n' member => ?_
  obtain ⟨n, present, lowered⟩ := List.mem_flatMap.mp member
  exact free_lowered undeclared (freeInAll_redirectedAll.mp calls n present) n' lowered

/-- Linking a module writes two names. That of the object of the module is free in the linked module if
the scope of the module does not declare it. That of the dispatcher is free if neither the scope of the
module nor a scope around a redirected call declares it, and so if the module declares it nowhere. -/
theorem link_leavesFree {m l : Module} {o o' : Outcome}
    (run : ((link disk importer m.resolved).run o).alone = .ok (l, o')) :
    (moduleObject ∉ m.resolved.ownNames → l.LeavesFree moduleObject) ∧
    (dispatcher ∉ m.resolved.ownNames →
      (callsRedirected disk importer m.resolved).LeavesFree dispatcher →
        l.LeavesFree dispatcher) ∧
    (dispatcher ∉ Node.declaredNamesOfAll m.resolved.items → l.LeavesFree dispatcher) := by
  obtain ⟨rfl, -⟩ := (link_answers m.resolved).result o l o' run
  refine ⟨fun own => linked_leavesFree own (Module.leavesFree_iff.mpr ?_), linked_leavesFree,
    fun undeclared => linked_leavesFree (fun own => undeclared (m.resolved.ownNames_subset own)) ?_⟩
  · refine Node.freeInAll_of_unwritten fun s member written => ?_
    have called := (redirected_writes (target disk importer)).2 _ m.allMarked_resolved s member
      (congrArg Prod.snd written)
    rw [written] at called
    exact absurd called (by decide)
  · refine Module.leavesFree_of_undeclared fun declared => undeclared ?_
    exact (declaredNames_redirected (target disk importer)).2 _ declared

/-- A disk with one module in its root. -/
def lone : Disk where
  entries := [(["a.ts"], .file "".toUTF8)]
  workingDirectory := []

/-- The module that a source becomes when it is linked beside the one on the disk. -/
def linkedBeside (source : String) : Option Module :=
  (parseModule ⟨"/m.ts"⟩ source).toOption.bind fun m =>
    ((link lone ⟨"/m.ts"⟩ m.resolved).run {}).alone.toOption.map (·.1)

/-- A module that declares both names, but not around what linking writes. -/
def shadowing : String :=
  "import './a';((_dep, module) => _dep)(require('./a'));export default 1;"

theorem link_leavesFree_shadowing : ∃ m l o, parseModule ⟨"/m.ts"⟩ shadowing = .ok m ∧
    ((link lone ⟨"/m.ts"⟩ m.resolved).run {}).alone = .ok (l, o) ∧
    moduleObject ∉ m.resolved.ownNames ∧ dispatcher ∉ m.resolved.ownNames ∧
    (callsRedirected lone ⟨"/m.ts"⟩ m.resolved).LeavesFree dispatcher ∧
    l.LeavesFree moduleObject ∧ l.LeavesFree dispatcher := by
  have facts : ∃ m ∈ (parseModule ⟨"/m.ts"⟩ shadowing).toOption,
      (∃ found ∈ ((link lone ⟨"/m.ts"⟩ m.resolved).run {}).alone.toOption,
        found.2.dependencies = [⟨"/a.ts"⟩]) ∧
      moduleObject ∉ m.resolved.ownNames ∧ dispatcher ∉ m.resolved.ownNames ∧
      (callsRedirected lone ⟨"/m.ts"⟩ m.resolved).LeavesFree dispatcher := by
    decide +kernel
  obtain ⟨m, parsed, ⟨⟨l, o⟩, run, -⟩, object, own, calls⟩ := facts
  have run := mem_toOption.mp run
  exact ⟨m, l, o, mem_toOption.mp parsed, run, object, own, calls, (link_leavesFree run).1 object,
    (link_leavesFree run).2.1 own calls⟩

/-- A declaration captures the call for an import, a parameter the call for a `require` in its function,
and a declaration the object that exports are merged into. -/
theorem link_captures :
    (∃ l ∈ linkedBeside "import './a';\nlet _dep;", ¬l.LeavesFree dispatcher) ∧
    (∃ l ∈ linkedBeside "(_dep) => require('./a');", ¬l.LeavesFree dispatcher) ∧
    (∃ l ∈ linkedBeside "export default 1;\nlet module;", ¬l.LeavesFree moduleObject) := by
  decide +kernel

end ScriptBundle.Rewriting
