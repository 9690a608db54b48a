import ScriptBundle.Proofs.Rewriting.Unlinked

/-! Which modules can be linked, and why others cannot. What is wrong with an item, or with a call of
`require`, can be told from the item or the call and from what the specifiers refer to. A module is
linked if nothing is wrong; otherwise the first item that something is wrong with decides the error,
and if the items are in order, the first call does in the order of a visit. -/
namespace ScriptBundle.Rewriting

open Script
open Node (IsKey IsName IsSpecifier IsImport IsExported IsDefault IsItem)

/-- The items that no bundle can have, and how they are called in a message. -/
inductive Unsupported : Node → String → Prop
  /-- An export of a declaration that leaves something behind when types are gone. -/
  | declaration (offset : Nat) {declaration : Node} (value : isTypeLevel declaration = false) :
    Unsupported (.mk .exportDeclaration offset [declaration])
      ("export " ++ exportedKeyword declaration ++
        " (exported declarations are not supported, use \x60export \x7b name \x7d\x60)")
  /-- An export of what another module exports, by names or all at once under a name. -/
  | reexport (offset : Nat) {source : Node} (attributes : Node) (specifiers : List Node)
    (from_ : source.isAbsent = false) :
    Unsupported (.mk (.exportNames false) offset (source :: attributes :: specifiers))
      "export ... from (re-export)"
  /-- An export of something that is named by a string in this module. -/
  | stringNamed (offset : Nat) {source : Node} (attributes : Node) {specifiers : List Node}
    (here : source.isAbsent = true) (named : specifiers.any isStringNamed = true) :
    Unsupported (.mk (.exportNames false) offset (source :: attributes :: specifiers))
      "export of a string-named binding"
  | all (isTypeOnly : Bool) (offset : Nat) (parts : List Node) :
    Unsupported (.mk (.exportAll isTypeOnly) offset parts) "export * from"
  | alias (isExported : Bool) (offset : Nat) (parts : List Node) :
    Unsupported (.mk (.alias isExported false) offset parts) "import = require()"
  | assignment (offset : Nat) (parts : List Node) :
    Unsupported (.mk .exportAssignment offset parts) "export ="

/-- The specifier of an import that does not bind types only. -/
def importedFrom? : Node → Option String
  | .mk (.import false) _ (.mk (.string specifier _) _ _ :: _ :: specifiers) =>
    if !specifiers.isEmpty && specifiers.all isTypeSpecifier then none else some specifier
  | _ => none

section faults

variable (ask : String → Except BundleError Identity) (importer : Path)

/-- What is wrong with an item. -/
inductive ItemFault : Node → BundleError → Prop
  | unsupported {n : Node} {construct : String} (refused : Unsupported n construct) :
    ItemFault n (.unsupportedSyntax importer construct)
  | unresolved {n : Node} {specifier : String} {e : BundleError}
    (needs : importedFrom? n = some specifier) (failed : ask specifier = .error e) : ItemFault n e

/-- What is wrong with a node that runs: it is a call of the global `require` for a module that
cannot be found. -/
inductive CallFault : Node → BundleError → Prop
  | unresolved {n : Node} {specifier : String} {e : BundleError}
    (needs : specifier? n = some specifier) (failed : ask specifier = .error e) : CallFault n e

/-- What is wrong with the request that an item makes. -/
def itemFault? (types : List String) (n : Node) : Option BundleError :=
  (itemRequest? types n).bind (Request.fault? ask importer)

/-- What is wrong with the request that a node makes when it runs. -/
def callFault? (n : Node) : Option BundleError :=
  (nodeRequest? n).bind (Request.fault? ask importer)

end faults

/-- Whether something is wrong with a node of a list, with none before it, and what. -/
def FirstFault (Fault : Node → BundleError → Prop) (ns : List Node) (e : BundleError) : Prop :=
  ∃ before n after, ns = before ++ n :: after ∧ (∀ n' ∈ before, ∀ e', ¬Fault n' e') ∧ Fault n e

section first

variable {Fault : Node → BundleError → Prop} {fault? : Node → Option BundleError} {ns : List Node}

theorem findSome?_eq_none_iff_faultless (same : ∀ n ∈ ns, ∀ e, fault? n = some e ↔ Fault n e) :
    ns.findSome? fault? = none ↔ ∀ n ∈ ns, ∀ e, ¬Fault n e := by
  rw [List.findSome?_eq_none_iff]
  refine forall₂_congr fun n member => ?_
  simp only [← same n member, Option.eq_none_iff_forall_ne_some, ne_eq]

theorem findSome?_eq_some_iff_firstFault (same : ∀ n ∈ ns, ∀ e, fault? n = some e ↔ Fault n e)
    (e : BundleError) : ns.findSome? fault? = some e ↔ FirstFault Fault ns e := by
  rw [List.findSome?_eq_some_iff]
  constructor
  · rintro ⟨before, n, after, rfl, fails, quiet⟩
    refine ⟨before, n, after, rfl, fun n' member e' fault => ?_, (same n (by simp) e).mp fails⟩
    rw [← same n' (by simp [member]), quiet n' member] at fault
    cases fault
  · rintro ⟨before, n, after, rfl, quiet, fails⟩
    refine ⟨before, n, after, rfl, (same n (by simp) e).mpr fails, fun n' member => ?_⟩
    rw [Option.eq_none_iff_forall_ne_some]
    exact fun e' fault => quiet n' member e' ((same n' (by simp [member]) e').mp fault)

end first

section requests

variable {ask : String → Except BundleError Identity} {importer : Path}

theorem unsupported_iff {n : Node} (types : List String) (construct : String) :
    ItemForm.ofNode types n = .error construct ↔ Unsupported n construct := by
  constructor
  · intro refused
    unfold ItemForm.ofNode at refused
    split at refused
    case h_4 =>
      split_ifs at refused with isTypeOnly here named
      · cases refused
        obtain rfl := (Bool.not_eq_true _).mp isTypeOnly
        exact .reexport _ _ _ (by simpa using here)
      · cases refused
        obtain rfl := (Bool.not_eq_true _).mp isTypeOnly
        exact .stringNamed _ _ (by simpa using here) named
    case h_5 =>
      split_ifs at refused with value
      cases refused
      exact .declaration _ ((Bool.not_eq_true _).mp value)
    case h_7 =>
      split_ifs at refused with isTypeOnly
      cases refused
      obtain rfl := (Bool.not_eq_true _).mp isTypeOnly
      exact .alias _ _ _
    case h_8 =>
      cases refused
      exact .all _ _ _
    case h_9 =>
      cases refused
      exact .assignment _ _
    all_goals cases refused
  · intro refused
    cases refused with
    | declaration offset value => simp [ItemForm.ofNode, value]
    | reexport offset attributes specifiers from_ => simp [ItemForm.ofNode, from_]
    | stringNamed offset attributes here named => simp [ItemForm.ofNode, here, named]
    | all | «alias» | assignment => rfl

theorem specifier?_ofParts_eq {specifiers : List Node} (each : ∀ n ∈ specifiers, IsSpecifier n)
    (specifier : String) : (ImportForm.ofParts specifier specifiers).specifier? =
      if !specifiers.isEmpty && specifiers.all isTypeSpecifier then none else some specifier := by
  split_ifs with types
  · simp only [Bool.and_eq_true, Bool.not_eq_true', List.all_eq_true] at types
    obtain ⟨several, types⟩ := types
    have unnamed : specifiers.filterMap importBinding? = [] := by
      refine List.filterMap_eq_nil_iff.mpr fun n member => ?_
      have type := types n member
      cases each n member with
      | default | whole => cases type
      | named isType =>
        cases isType with
        | true => rfl
        | false => cases type
    have unwhole : wholeBinding? specifiers = none := by
      rw [wholeBinding?_eq, filterMap_whole?_eq_nil]
      · rfl
      · intro n member whole
        have type := types n member
        cases each n member with
        | whole => cases type
        | default | named => cases whole
    simp [ImportForm.ofParts, several, unnamed, unwhole, ImportForm.specifier?]
  · refine specifier?_ofParts each ?_
    simpa [Classical.or_iff_not_imp_left] using types

theorem importing_typeOnly {n : Node} {types : List String} {form : ImportForm}
    (other : n.isImport = false) (known : ItemForm.ofNode types n = .ok (.importing form)) :
    form = .typeOnly := by
  cases hasForm known with
  | importing => cases other
  | importTypes | aliasType => rfl

theorem importedFrom?_other {n : Node} (other : n.isImport = false) : importedFrom? n = none := by
  unfold importedFrom?
  split
  next => cases other
  next => rfl

/-- What an import needs can be told from its form. -/
theorem importedFrom?_eq {n : Node} (item : IsItem n) (types : List String) :
    importedFrom? n = match ItemForm.ofNode types n with
      | .ok (.importing form) => form.specifier?
      | _ => none := by
  cases imports : n.isImport with
  | true =>
    cases item.isImport imports with
    | mk isTypeOnly offset specifier raw place parts attributes specifiers each whole =>
      cases isTypeOnly with
      | true => rfl
      | false => exact (specifier?_ofParts_eq each specifier).symm
  | false =>
    rw [importedFrom?_other imports]
    cases known : ItemForm.ofNode types n with
    | error construct => rfl
    | ok form =>
      cases form with
      | importing form =>
        rw [importing_typeOnly imports known]
        rfl
      | exporting | statement => rfl

theorem itemRequest?_eq {n : Node} (item : IsItem n) (types : List String) :
    itemRequest? types n = match ItemForm.ofNode types n with
      | .error construct => some (.refuse construct)
      | .ok _ => (importedFrom? n).map .refer := by
  rw [itemRequest?, importedFrom?_eq item types]
  cases ItemForm.ofNode types n with
  | error construct => rfl
  | ok form => cases form <;> rfl

theorem fault?_refer {specifier : String} {e : BundleError} :
    (Request.refer specifier).fault? ask importer = some e ↔ ask specifier = .error e := by
  unfold Request.fault?
  cases found : ask specifier <;> simp [found]

theorem itemFault_iff {n : Node} (item : IsItem n) (types : List String) (e : BundleError) :
    itemFault? ask importer types n = some e ↔ ItemFault ask importer n e := by
  have needs := importedFrom?_eq item types
  have refused := unsupported_iff (n := n) types
  rw [itemFault?, itemRequest?_eq item types]
  cases known : ItemForm.ofNode types n with
  | error construct =>
    rw [known] at needs refused
    constructor
    · intro failed
      cases failed
      exact .unsupported ((refused construct).mp rfl)
    · rintro (unsupported | ⟨imports, -⟩)
      · cases (refused _).mpr unsupported
        rfl
      · cases needs.symm.trans imports
  | ok form =>
    rw [known] at refused
    constructor
    · intro failed
      obtain ⟨request, imports, fault⟩ := Option.bind_eq_some_iff.mp failed
      obtain ⟨specifier, needed, rfl⟩ := Option.map_eq_some_iff.mp imports
      exact .unresolved needed (fault?_refer.mp fault)
    · rintro (unsupported | ⟨imports, fault⟩)
      · cases (refused _).mpr unsupported
      · refine Option.bind_eq_some_iff.mpr ⟨_, Option.map_eq_some_iff.mpr ⟨_, imports, rfl⟩, ?_⟩
        exact fault?_refer.mpr fault

theorem callFault_iff (importer : Path) (n : Node) (e : BundleError) :
    callFault? ask importer n = some e ↔ CallFault ask n e := by
  unfold callFault? nodeRequest?
  cases asks : specifier? n with
  | some specifier =>
    rw [Option.bind_some, fault?_refer]
    constructor
    · exact fun failed => .unresolved asks failed
    · rintro ⟨asks', failed⟩
      cases asks.symm.trans asks'
      exact failed
  | none =>
    have quiet : ((miscount? n).map Request.warn).bind (Request.fault? ask importer) = none := by
      cases miscount? n <;> rfl
    rw [quiet]
    constructor
    · nofun
    · rintro ⟨asks', -⟩
      cases asks.symm.trans asks'

end requests

section linking

variable {disk : Disk} {importer : Path} {m : Module}

/-- Linking from a session stands or falls with the requests of the module. -/
theorem link_run (m : Module) (s : Session) (o : Outcome) :
    (((link disk importer m).run o).runFrom s).1 =
      (perform (s.memo.answer disk importer) importer
        (linkRequests (answered (s.memo.answer disk importer)) m) o).map
          (linkedTo (answered (s.memo.answer disk importer)) m, ·) :=
  (link_performs m).result o s rfl

/-- What linking gives follows from the module and the answers. -/
theorem link_ok {s : Session} {o o' : Outcome} {l : Module}
    (run : (((link disk importer m).run o).runFrom s).1 = .ok (l, o')) :
    linkedTo (answered (s.memo.answer disk importer)) m = l ∧
      o.after (s.memo.answer disk importer) importer
        (linkRequests (answered (s.memo.answer disk importer)) m) = o' := by
  rw [link_run] at run
  cases met : perform (s.memo.answer disk importer) importer
      (linkRequests (answered (s.memo.answer disk importer)) m) o with
  | error e =>
    rw [met] at run
    cases run
  | ok found =>
    rw [met] at run
    cases run
    exact ⟨rfl, ((perform_eq_ok _ _).mp met).2⟩

/-- The first request of a module that cannot be met belongs to the first item that something is wrong
with, or else to the first such call. -/
theorem fault_linkRequests (items : ∀ n ∈ m.items, IsItem n)
    (ask : String → Except BundleError Identity) :
    (linkRequests (answered ask) m).findSome? (Request.fault? ask importer) =
      (m.items.findSome? (itemFault? ask importer (typeOnlyNames m.items))).or
        ((visitedAll (m.items.flatMap running)).findSome? (callFault? ask importer)) := by
  rw [linkRequests_eq items, List.findSome?_append, findSome?_filterMap, callRequests,
    findSome?_filterMap]
  rfl

/-- What linking gives, if the items of a module have their shapes. -/
theorem link_eq_ok_iff (items : ∀ n ∈ m.items, IsItem n) (s : Session) (o : Outcome) :
    (∃ l o', (((link disk importer m).run o).runFrom s).1 = .ok (l, o')) ↔
      (∀ n ∈ m.items, ∀ e, ¬ItemFault (s.memo.answer disk importer) importer n e) ∧
      ∀ n ∈ visitedAll (m.items.flatMap running), ∀ e,
        ¬CallFault (s.memo.answer disk importer) n e := by
  rw [← findSome?_eq_none_iff_faultless fun n member e =>
      itemFault_iff (items n member) (typeOnlyNames m.items) e,
    ← findSome?_eq_none_iff_faultless fun n _ e => callFault_iff importer n e,
    ← Option.or_eq_none_iff, ← fault_linkRequests items, link_run, perform]
  cases (linkRequests (answered (s.memo.answer disk importer)) m).findSome?
    (Request.fault? (s.memo.answer disk importer) importer) <;> simp [Except.map]

/-- All items of a module that was linked have a form. -/
theorem exists_form_of_link (items : ∀ n ∈ m.items, IsItem n) {s : Session} {o o' : Outcome}
    {l : Module} (run : (((link disk importer m).run o).runFrom s).1 = .ok (l, o')) :
    ∀ n ∈ m.items, ∃ form, ItemForm.ofNode (typeOnlyNames m.items) n = .ok form := by
  intro n member
  cases known : ItemForm.ofNode (typeOnlyNames m.items) n with
  | ok form => exact ⟨form, rfl⟩
  | error construct =>
    exact (((link_eq_ok_iff items s o).mp ⟨l, o', run⟩).1 n member _
      (.unsupported ((unsupported_iff _ construct).mp known))).elim

theorem link_eq_error_iff (items : ∀ n ∈ m.items, IsItem n) (s : Session) (o : Outcome)
    (e : BundleError) : (((link disk importer m).run o).runFrom s).1 = .error e ↔
      FirstFault (ItemFault (s.memo.answer disk importer) importer) m.items e ∨
      (∀ n ∈ m.items, ∀ e', ¬ItemFault (s.memo.answer disk importer) importer n e') ∧
        FirstFault (CallFault (s.memo.answer disk importer))
          (visitedAll (m.items.flatMap running)) e := by
  rw [← findSome?_eq_some_iff_firstFault fun n member e =>
      itemFault_iff (items n member) (typeOnlyNames m.items) e,
    ← findSome?_eq_none_iff_faultless fun n member e =>
      itemFault_iff (items n member) (typeOnlyNames m.items) e,
    ← findSome?_eq_some_iff_firstFault fun n _ e => callFault_iff importer n e,
    ← Option.or_eq_some_iff, ← fault_linkRequests items, link_run, perform]
  cases (linkRequests (answered (s.memo.answer disk importer)) m).findSome?
    (Request.fault? (s.memo.answer disk importer) importer) <;> simp [Except.map]

/-- What linking makes of each item stands where the item stood. -/
theorem linkedTo_items (target : String → Identity) (m : Module) : (linkedTo target m).items =
    m.items.flatMap fun n => redirectedAll target (lowered target (typeOnlyNames m.items) n) := by
  rw [linkedTo, redirectedAll_eq, List.map_flatMap]
  simp only [redirectedAll_eq]

theorem linkedPart_of_statement {n : Node} (statement : importsOrExports n = false)
    (target : String → Identity) (types : List String) :
    redirectedAll target (lowered target types n) = [replaced target n] := by
  rw [lowered, ofNode_of_statement statement, ← redirected_eq_replaced.1]
  rfl

theorem itemFault_none_iff {ask : String → Except BundleError Identity} {n : Node} :
    (∀ e, ¬ItemFault ask importer n e) ↔ (∀ construct, ¬Unsupported n construct) ∧
      ∀ specifier, importedFrom? n = some specifier → ∃ identity, ask specifier = .ok identity := by
  constructor
  · intro faultless
    refine ⟨fun construct refused => faultless _ (.unsupported refused), fun specifier needs => ?_⟩
    cases found : ask specifier with
    | error e => exact (faultless e (.unresolved needs found)).elim
    | ok identity => exact ⟨identity, rfl⟩
  · rintro ⟨supported, found⟩ e (refused | ⟨needs, failed⟩)
    · exact supported _ refused
    · obtain ⟨identity, found⟩ := found _ needs
      cases found.symm.trans failed

theorem callFault_none_iff {ask : String → Except BundleError Identity} {n : Node} :
    (∀ e, ¬CallFault ask n e) ↔
      ∀ specifier, specifier? n = some specifier → ∃ identity, ask specifier = .ok identity := by
  constructor
  · intro faultless specifier needs
    cases found : ask specifier with
    | error e => exact (faultless e (.unresolved needs found)).elim
    | ok identity => exact ⟨identity, rfl⟩
  · rintro found e ⟨needs, failed⟩
    obtain ⟨identity, found⟩ := found _ needs
    cases found.symm.trans failed

end linking

theorem sublist_flatMap {α β : Type} {p : α → Bool} {f : α → List β} {g : α → β}
    (each : ∀ a, p a = true → f a = [g a]) (as : List α) :
    ((as.filter p).map g).Sublist (as.flatMap f) := by
  induction as with
  | nil => exact .slnil
  | cons a rest ih =>
    rw [List.flatMap_cons]
    cases kept : p a with
    | true =>
      rw [List.filter_cons_of_pos kept, List.map_cons, each a kept]
      exact ih.cons_cons _
    | false =>
      rw [List.filter_cons_of_neg (by simp [kept])]
      exact ih.trans (List.sublist_append_right _ _)

/-- A module with a call that asks for a missing module, and an import of another one after it. -/
def astray : String :=
  "load(require('./gone'));\nimport type \x7b T \x7d from './none';\nimport './lost';"

/-- A module with calls that ask for missing modules, one in the type of a constant and one in its
value. -/
def annotated : String :=
  "import './a';\nconst x: \x7b [load(require('./gone'))]: 1 \x7d = require('./lost');"

end ScriptBundle.Rewriting
