import ScriptBundle.Proofs.Rewriting.Answers
import ScriptBundle.Proofs.Rewriting.Redirecting

/-! Linking whole modules. What was read has no calls of the dispatcher, an import that is lowered adds
the one for its module, and redirecting adds the others. -/
namespace ScriptBundle.Rewriting

open Script

variable {disk : Disk}

theorem dispatches_otherName? {name binding other : Node} (quiet : dispatches name = [])
    (known : otherName? name binding = some other) : dispatches other = [] := by
  unfold otherName? at known
  split at known
  next => cases known
  next =>
    split at known <;> cases known
    exact quiet
  next =>
    cases known
    exact quiet

namespace ImportBinding

theorem dispatches_pattern {n : Node} {b : ImportBinding} (quiet : dispatches n = [])
    (known : importBinding? n = some b) : dispatches b.pattern = [] := by
  unfold importBinding? at known
  split at known
  next offset name =>
    cases known
    simpa [pattern] using quiet
  next offset imported name =>
    cases known
    obtain ⟨quietImported, quietName⟩ : dispatches imported = [] ∧ dispatches name = [] := by
      simpa using quiet
    cases other : otherName? imported name with
    | none => simp [pattern, quietName]
    | some key => simp [pattern, quietName, dispatches_otherName? quietImported other]
  next => cases known

end ImportBinding

theorem dispatches_wholeBinding? {specifiers : List Node} {whole : Node}
    (quiet : dispatchesOfAll specifiers = []) (known : wholeBinding? specifiers = some whole) :
    dispatches whole = [] := by
  obtain ⟨n, member, bound⟩ := List.mem_filterMap.mp (List.mem_of_getLast? known)
  have part := dispatchesOfAll_eq_nil.mp quiet n member
  split at bound
  next =>
    cases bound
    simpa using part
  next => cases bound

namespace ImportForm

theorem dispatches_takeNames {named : List ImportBinding} {source : Node}
    (quiet : ∀ b ∈ named, dispatches b.pattern = []) :
    dispatchesOfAll (takeNames named source) = if named.isEmpty then [] else dispatches source := by
  have patterns : dispatchesOfAll (named.map ImportBinding.pattern) = [] := by
    simpa [dispatchesOfAll_eq_nil] using quiet
  unfold takeNames
  split
  · rfl
  · simp [patterns]

/-- An import that needs a module calls the dispatcher for it, and for no other module. -/
theorem dispatches_statements {specifier : String} {specifiers : List Node} {needed : String}
    (quiet : dispatchesOfAll specifiers = [])
    (needs : (ofParts specifier specifiers).specifier? = some needed) (identity : Identity) :
    dispatchesOfAll ((ofParts specifier specifiers).statements identity) =
      [[Node.text identity.text]] := by
  have patterns : ∀ b ∈ specifiers.filterMap importBinding?, dispatches b.pattern = [] := by
    intro b member
    obtain ⟨n, inside, bound⟩ := List.mem_filterMap.mp member
    exact ImportBinding.dispatches_pattern (dispatchesOfAll_eq_nil.mp quiet n inside) bound
  simp only [ofParts] at needs ⊢
  split_ifs at needs ⊢ with alone types
  · simp [statements]
  · cases needs
  · cases whole : wholeBinding? specifiers with
    | none =>
      have some : (specifiers.filterMap importBinding?).isEmpty = false := by
        simpa [whole] using types
      simp [statements, dispatches_takeNames patterns, some]
    | some name =>
      have quietName := dispatches_wholeBinding? quiet whole
      simp [statements, dispatches_takeNames patterns, quietName]

end ImportForm

namespace ExportForm

theorem dispatches_default {declaration : Option Node} {value : Node}
    (quiet : dispatchesOfAll declaration.toList = []) (quietValue : dispatches value = []) :
    dispatchesOfAll (statements (.defaultDeclaration declaration value)) = [] := by
  cases declaration with
  | none => simp [statements, defaultProperty, quietValue]
  | some n => simpa [statements, defaultProperty, quietValue] using quiet

theorem dispatches_ofDefault {n : Node} (quiet : dispatches n = []) :
    dispatchesOfAll (ofDefault n).statements = [] := by
  unfold ofDefault
  split
  case h_1 | h_2 =>
    split_ifs
    · exact dispatches_default rfl (by simpa using quiet)
    · refine dispatches_default (by simpa using quiet) ?_
      simp only [dispatches_mk, ne_eq, reduceCtorEq, not_false_eq_true, implies_true,
        dispatchesOfAll_cons, List.append_eq_nil_iff] at quiet
      exact quiet.1
  · rfl

theorem dispatches_ofNames {types : List String} {specifiers : List Node}
    (quiet : dispatchesOfAll specifiers = []) :
    dispatchesOfAll (ofNames types specifiers).statements = [] := by
  simp only [ofNames, statements]
  split_ifs
  · rfl
  · simp only [dispatchesOfAll_cons, dispatches_mergeExports, dispatchesOfAll_nil, List.append_nil,
      dispatchesOfAll_eq_nil, List.mem_map, List.mem_filter, List.mem_filterMap]
    rintro _ ⟨_, ⟨⟨name, exported⟩, ⟨⟨n, member, bound⟩, -⟩, rfl⟩, rfl⟩
    have part := dispatchesOfAll_eq_nil.mp quiet n member
    split at bound
    next =>
      cases bound
      obtain ⟨quietName, quietExported⟩ : dispatches name = [] ∧ dispatches exported = [] := by
        simpa using part
      cases other : otherName? exported name with
      | none => simp [ExportBinding.property, quietName]
      | some key =>
        simp [ExportBinding.property, quietName, dispatches_otherName? quietExported other]
    next => cases bound

end ExportForm

theorem pure_ensures {ns : List Node} (quiet : dispatchesOfAll ns = []) :
    Ensures disk (pure ns) fun o ns' o' => InStep disk o o' [] (dispatchesOfAll ns') := by
  refine .weaken (.pure ns) ?_
  rintro o _ _ ⟨rfl, rfl⟩
  rw [quiet]
  exact .refl disk _ []

theorem lowerItem_importing (importer : Path) {specifier : String} {specifiers : List Node}
    (quiet : dispatchesOfAll specifiers = []) :
    Ensures disk (lowerItem disk importer (.importing (.ofParts specifier specifiers)))
      fun o ns o' => InStep disk o o' [] (dispatchesOfAll ns) := by
  simp only [lowerItem]
  cases needs : (ImportForm.ofParts specifier specifiers).specifier? with
  | none => exact pure_ensures rfl
  | some needed =>
    refine .bind (resolve_ensures importer needed) (fun identity =>
      .reporting (.modifying (·.refer identity) (.pure _) fun _ _ _ done => done)) ?_
    rintro o identity _ _ _ ⟨rfl, file⟩ ⟨rfl, rfl⟩
    refine ⟨[identity], .refer _ file, ?_⟩
    simp [Adds, ImportForm.dispatches_statements quiet needs]

theorem lowerItem_exporting (importer : Path) {form : ExportForm}
    (quiet : dispatchesOfAll form.statements = []) :
    Ensures disk (lowerItem disk importer (.exporting form))
      fun o ns o' => InStep disk o o' [] (dispatchesOfAll ns) :=
  .reportingAll (pure_ensures quiet)

/-- Lowering an item without calls of the dispatcher adds one for the module that the item needs. -/
theorem lowerItem_ensures (importer : Path) {types : List String} {n : Node} {form : ItemForm}
    (quiet : dispatches n = []) (known : ItemForm.ofNode types n = .ok form) :
    Ensures disk (lowerItem disk importer form) fun o ns o' =>
      InStep disk o o' [] (dispatchesOfAll ns) := by
  cases hasForm known with
  | importing => exact lowerItem_importing importer (by simp_all)
  | importTypes | aliasType => exact pure_ensures rfl
  | value offset value =>
    exact lowerItem_exporting importer (by simp_all [ExportForm.statements, defaultProperty])
  | declaration offset declaration =>
    exact lowerItem_exporting importer (ExportForm.dispatches_ofDefault (by simp_all))
  | names => exact lowerItem_exporting importer (ExportForm.dispatches_ofNames (by simp_all))
  | nameTypes | typeDeclaration | asNamespace => exact lowerItem_exporting importer rfl
  | statement => exact pure_ensures (by simpa using quiet)

theorem lowerItems_ensures (importer : Path) (types : List String) {items : List Node}
    (quiet : dispatchesOfAll items = []) :
    Ensures disk (lowerItems disk importer types items) fun o items' o' =>
      InStep disk o o' [] (dispatchesOfAll items') := by
  induction items with
  | nil =>
    refine .weaken (.pure []) ?_
    rintro o _ _ ⟨rfl, rfl⟩
    exact .refl disk _ []
  | cons n rest ih =>
    obtain ⟨quietFirst, quietRest⟩ := List.append_eq_nil_iff.mp quiet
    unfold lowerItems
    cases known : ItemForm.ofNode types n with
    | error construct => exact .throw _
    | ok form =>
      refine .bind (lowerItem_ensures importer quietFirst known)
        (fun first => .map (ih quietRest) (first ++ ·)) ?_
      rintro o first o' _ o'' redirected ⟨rest', rfl, redirected'⟩
      simpa [dispatchesOfAll_eq] using redirected.append redirected'

/-- Linking a module that was read writes calls of the dispatcher for exactly the modules that it
records, and for files only. -/
theorem link_ensures (importer : Path) (m : Module) :
    Ensures disk (link disk importer m.resolved) fun o linked o' =>
      InStep disk o o' [] (dispatchesOfAll linked.items) := by
  have redirect (items : List Node) : Ensures disk (redirectAll disk importer items)
      fun o items' o' => Literal (dispatchesOfAll items) →
        InStep disk o o' (dispatchesOfAll items) (dispatchesOfAll items') :=
    ⟨(Steady.redirects importer).2 items, fun o items' o' run literal =>
      (((redirects_ensures importer).2 items literal).result o items' o' run).2⟩
  refine .bind (lowerItems_ensures importer (typeOnlyNames m.resolved.items)
    (dispatches_marked.2 _ m.allMarked_resolved)) (fun items => .map (redirect items)
      fun items' => { m.resolved with items := items' }) ?_
  rintro o items o' _ o'' lowered ⟨items', rfl, redirected⟩
  exact lowered.trans (redirected lowered.literal)

end ScriptBundle.Rewriting
