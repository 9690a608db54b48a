import ScriptBundle.Proofs.Rewriting.Remaining

/-! What is merged into the exports when types are gone. Erasing types and lowering what plain scripts do
not have drop no statement that linking wrote for exports and make none up, and each still sets the
same properties: no other code mentions the object of the module as linking does. So a plain script sets
the names that the module exports, in their order. -/
namespace ScriptBundle.Rewriting

open Script
open Node (Lacks AllLack allLack_nil allLack_cons lacks_mk lacks_single lacks_pair IsKey IsName
  IsSpecifier IsImport IsExported IsDefault IsItem)

variable {target : String → Identity}

/-! ### The object of the module -/

section mention

/-- That the object of the module is mentioned as linking does. -/
def mentionsModule : Trait where
  isKind kind _ :=
    match kind with
    | .identifier name .unknown => name == moduleObject
    | _ => false
  isDeep := true
  isKind_neutral {kind} neutral _ := by cases kind <;> first | rfl | cases neutral
  isKind_whole := id
  isKind_function _ _ := rfl
  isKind_unresolved _ := rfl
  isKind_name shallow := nomatch shallow

theorem lacks_of_marked :
    (∀ n : Node, n.isMarked → Lacks mentionsModule n) ∧
    ∀ ns, Node.allMarked ns → AllLack mentionsModule ns := by
  apply Node.isMarked.mutual_induct
  case case1 =>
    intro kind offset parts ih marked
    rw [Node.isMarked, Bool.and_eq_true] at marked
    refine lacks_mk.mpr ⟨?_, fun _ => ih marked.2⟩
    cases kind with
    | identifier name mark =>
      cases mark with
      | unknown => cases marked.1
      | _ => rfl
    | _ => rfl
  case case2 => exact fun _ => allLack_nil
  case case3 =>
    intro n rest ihFirst ihRest marked
    rw [Node.allMarked, Bool.and_eq_true] at marked
    exact allLack_cons.mpr ⟨ihFirst marked.1, ihRest marked.2⟩

theorem isMarked_of_mem {n : Node} {ns : List Node} (marked : Node.allMarked ns) (member : n ∈ ns) :
    n.isMarked := by
  induction ns with
  | nil => cases member
  | cons first rest ih =>
    rw [Node.allMarked, Bool.and_eq_true] at marked
    obtain rfl | later := List.mem_cons.mp member
    · exact marked.1
    · exact ih marked.2 later

theorem lacks_dispatch (identity : Identity) : Lacks mentionsModule (dispatch identity) := by
  have other : mentionsModule.isKind (.identifier dispatcher .unknown) true = false := by decide
  exact Node.lacks_call.mpr ⟨lacks_mk.mpr ⟨other, fun _ => allLack_nil⟩, by simp⟩

theorem not_lacks_module : ¬Lacks mentionsModule (Node.ofSymbol (moduleObject, .unknown)) := by
  rw [Lacks]
  decide

/-- Code that does not mention the object of the module merges nothing. -/
theorem mergedProperties?_of_lacks {n : Node} (lacks : Lacks mentionsModule n) :
    mergedProperties? n = none := by
  unfold mergedProperties?
  split
  next place _ properties =>
    refine if_neg fun exported => ?_
    have inside := ((lacks_pair rfl).mp ((lacks_single rfl).mp lacks)).1
    unfold isExportsSoFar at exported
    split at exported
    next =>
      simp only [Bool.and_eq_true, decide_eq_true_eq] at exported
      have object := ((lacks_pair rfl).mp inside).1
      rw [exported.1] at object
      exact not_lacks_module (object.with id id)
    next => cases exported
  next => rfl

end mention

/-! ### Properties -/

section properties

/-- A property as linking writes it for an export. -/
inductive IsMerged : Node → Prop
  | property {key : Node} (known : IsKey key) (value : Node) : IsMerged (Node.property key value)
  | shorthand {name : Node} (known : IsName name ∨ IsKey name) : IsMerged (Node.shorthand name)

/-- The name of the property that a part of an object literal sets. -/
def setName? : Node → Option String
  | .mk .property _ (key :: _) => propertyName? key
  | .mk .shorthand _ (name :: _) => name.name?
  | _ => none

/-- The names of the properties that a statement sets which the bundler wrote for exports. -/
def mergedNames (n : Node) : List String := ((mergedProperties? n).getD []).filterMap setName?

variable {k : Knowledge}

theorem lower_key {key : Node} (known : IsKey key) : Lowering.lower k none key = [key] := by
  cases known <;> rfl

/-- A property sets the same name when types are gone. -/
theorem lower_merged {p : Node} (merged : IsMerged p) :
    (Lowering.lower k none (redirected target p).withoutTypes).filterMap setName? =
      (setName? p).toList := by
  cases merged with
  | @property key known value =>
    have same : (redirected target (Node.property key value)).withoutTypes =
        .mk .property 0 (key :: Node.allWithoutTypes [redirected target value]) := by
      cases known <;> rfl
    rw [same]
    change [Node.mk .property 0 (Lowering.lower k none key ++ Lowering.lowerAll k
      (Node.allWithoutTypes [redirected target value]))].filterMap setName? = _
    rw [lower_key known, filterMap_cons_eq, List.filterMap_nil, List.append_nil]
    rfl
  | shorthand known =>
    obtain ⟨text, mark, place⟩ | key := known
    · have symbol : (Node.mk (.identifier text mark) place []).symbol? = some (text, mark) := rfl
      change (Lowering.lower k none
        (Node.shorthand (.mk (.identifier text mark) place []))).filterMap setName? = [text]
      rw [Node.shorthand, Lowering.lower, symbol, Option.bind_some]
      cases k.exportedAs? (text, mark) <;> rfl
    · cases key <;> rfl

theorem lowerAll_merged {properties : List Node} (each : ∀ p ∈ properties, IsMerged p) :
    (Lowering.lowerAll k (Node.allWithoutTypes (redirectedAll target properties))).filterMap
      setName? = properties.filterMap setName? := by
  induction properties with
  | nil => rfl
  | cons p rest ih =>
    obtain ⟨first, others⟩ := List.forall_mem_cons.mp each
    have untyped : (redirected target p).isTypes = false := by
      rw [isTypes_redirected]
      cases first <;> rfl
    rw [redirectedAll, Node.allWithoutTypes, if_neg (by simp [untyped]), Lowering.lowerAll,
      List.filterMap_append, lower_merged first, ih others, filterMap_cons_eq]

theorem lower_mergeExports (unexported : k.exportedAs? (moduleObject, .unknown) = none)
    (properties : List Node) : Lowering.lower k none (mergeExports properties) =
      [Node.statement (Node.assign exportsSoFar (Node.object
        (Lowering.lowerAll k (.mk .spread 0 [exportsSoFar] :: properties))))] := by
  have place : Lowering.lowerAll k [Node.generated moduleObject, Node.word exportsProperty] =
      [Node.generated moduleObject, Node.word exportsProperty] := by
    change [(k.exportedAs? (moduleObject, .unknown)).getD (Node.generated moduleObject)] ++
      [Node.word exportsProperty] = _
    rw [unexported]
    rfl
  change [Node.statement (.mk (.assign "=") 0 (.mk (.member false) 0 (Lowering.lowerAll k
    [Node.generated moduleObject, Node.word exportsProperty]) :: _))] = _
  rw [place]
  rfl

/-- A statement for exports sets the names of its properties, also when types are gone. -/
theorem mergedNames_lower (unexported : k.exportedAs? (moduleObject, .unknown) = none)
    {properties : List Node} (each : ∀ p ∈ properties, IsMerged p) :
    (Lowering.lower k none (redirected target (mergeExports properties)).withoutTypes).flatMap
      mergedNames = properties.filterMap setName? := by
  have same : (redirected target (mergeExports properties)).withoutTypes =
      mergeExports (Node.allWithoutTypes (redirectedAll target properties)) := rfl
  rw [same, lower_mergeExports unexported, List.flatMap_singleton, ← lowerAll_merged each]
  rfl

variable {V : Type} (values : Values V)

theorem pair?_merged {p : Node} (merged : IsMerged p) :
    (pair? values (redirected target p)).map Prod.fst = setName? p := by
  cases merged with
  | @property key _ value =>
    rw [pair?_property]
    change _ = propertyName? key
    cases propertyName? key <;> rfl
  | @shorthand name _ =>
    rw [pair?_shorthand]
    change _ = name.name?
    cases name.name? <;> rfl

theorem mergedEntries_names {properties : List Node} (each : ∀ p ∈ properties, IsMerged p) :
    (mergedEntries values (redirected target (mergeExports properties))).map Prod.fst =
      properties.filterMap setName? := by
  rw [mergedEntries, mergedProperties?_mergeExports, Option.getD_some, redirectedAll_eq]
  change (List.filterMap (pair? values) (properties.map (redirected target))).map Prod.fst = _
  rw [List.filterMap_map, List.map_filterMap]
  exact List.filterMap_congr fun p member => pair?_merged values (each p member)

end properties

/-! ### Statements -/

section statements

variable {types : List String}

/-- What is left of a statement of a linked module when types are gone. -/
def remaining (target : String → Identity) (n : Node) : Node :=
  (redirected target n).withoutTypeAliases.withoutTypes

/-- Whether what lowering has to know of a tree does not mention the object of the module, when calls
are redirected and types are gone. -/
def KnownApart (target : String → Identity) (n : Node) : Prop :=
  (redirected target n).withoutTypes.KnownLacks mentionsModule

theorem knownApart_written (target : String → Identity) : HoldsWritten (KnownApart target) where
  name name := by
    cases name
    exact ⟨fun _ before => before, List.forall_mem_nil _⟩
  key known := by
    obtain rfl | ⟨text, place⟩ | ⟨value, raw, place⟩ := known <;>
      exact ⟨fun _ before => before, List.forall_mem_nil _⟩
  soFar := ⟨fun _ before => before, List.forall_mem_nil _⟩
  dispatch _ := ⟨fun _ before => before, List.forall_mem_nil _⟩
  node written offset parts each := by
    have inside : ∀ n ∈ Node.allWithoutTypes (redirectedAll target parts),
        n.KnownLacks mentionsModule := by
      rw [redirectedAll_eq, Node.allWithoutTypes_eq, List.forall_mem_map]
      intro n member
      obtain ⟨part, present, rfl⟩ := List.mem_map.mp (List.mem_filter.mp member).1
      exact each part present
    unfold isWritten at written
    split at written
    case h_11 => cases written
    all_goals
      rw [KnownApart, redirected_mk (by simp)]
      exact ⟨Node.collectAll_lacks inside, Node.exportedSymbolsOfAll_lacks inside⟩

/-- A statement of a linked module as far as exports are concerned: it sets properties as linking writes
them, or it merges nothing, neither in the linked module nor in the plain script. -/
inductive IsStatement (target : String → Identity) : Node → Prop
  | merge {properties : List Node} (each : ∀ p ∈ properties, IsMerged p) :
    IsStatement target (mergeExports properties)
  | quiet {n : Node} (linked : mergedProperties? (redirected target n) = none)
    (plain : ∀ k : Knowledge, k.Lacks mentionsModule →
      ∀ n' ∈ Lowering.lower k none (remaining target n), mergedProperties? n' = none) :
    IsStatement target n

/-- Whether a statement is one of a linked module, and adds no mention of the object of the module to
what lowering has to know. -/
structure IsApart (target : String → Identity) (n : Node) : Prop where
  statement : IsStatement target n
  known : (remaining target n).KnownLacks mentionsModule

theorem lacks_withoutTypes {n : Node} (marked : n.isMarked) :
    Lacks mentionsModule (redirected target n).withoutTypes :=
  (redirected_withoutTypes_lacks lacks_dispatch).1 n
    (Node.withoutTypes_lacks.1 n (lacks_of_marked.1 n marked))

theorem isApart_of_marked {n : Node} (marked : n.isMarked) : IsApart target n := by
  have lacks : Lacks mentionsModule (remaining target n) :=
    withoutTypeAliases_withoutTypes_lacks.1 _ (lacks_withoutTypes marked)
  exact ⟨.quiet (mergedProperties?_of_marked marked) fun k lack n' member =>
    mergedProperties?_of_lacks ((Lowering.lower_lacks lack).1 none _ spaceLacks_none lacks n' member),
    lacks.known rfl⟩

theorem isApart_constant {pattern value : Node} (known : KnownApart target (constant pattern value)) :
    IsApart target (constant pattern value) where
  statement := .quiet (mergedProperties?_of_kind (by simp [Node.kind, constant, Node.declaration]))
    fun _ _ => List.forall_mem_singleton.mpr rfl
  known := known

theorem isApart_dispatch {identity : Identity}
    (known : KnownApart target (Node.statement (dispatch identity))) :
    IsApart target (Node.statement (dispatch identity)) where
  statement := .quiet rfl fun _ _ => List.forall_mem_singleton.mpr rfl
  known := known

theorem isApart_default {value : Node} (marked : value.isMarked) :
    IsApart target (mergeExports [defaultProperty value]) where
  statement := .merge (List.forall_mem_singleton.mpr (.property (.word ..) value))
  known := (knownApart_written target).mergeExports (List.forall_mem_singleton.mpr
    ((knownApart_written target).property ((knownApart_written target).key (.inr (.word ..)))
      ((lacks_withoutTypes marked).known rfl)))

theorem isApart_import {form : ImportForm} {identity : Identity}
    (known : ∀ n ∈ form.statements identity, KnownApart target n) :
    ∀ n ∈ form.statements identity, IsApart target n := by
  have taken (named : List ImportBinding) (source : Node)
      (known : ∀ n ∈ ImportForm.takeNames named source, KnownApart target n) :
      ∀ n ∈ ImportForm.takeNames named source, IsApart target n := by
    unfold ImportForm.takeNames at known ⊢
    split_ifs at known ⊢
    · exact List.forall_mem_nil _
    · exact List.forall_mem_singleton.mpr (isApart_constant (List.forall_mem_singleton.mp known))
  cases form with
  | typeOnly => exact List.forall_mem_nil _
  | sideEffect specifier =>
    exact List.forall_mem_singleton.mpr (isApart_dispatch (List.forall_mem_singleton.mp known))
  | bindings specifier whole named =>
    cases whole with
    | none => exact taken named _ known
    | some whole =>
      obtain ⟨first, others⟩ := List.forall_mem_cons.mp known
      exact List.forall_mem_cons.mpr ⟨isApart_constant first, taken named whole others⟩

theorem isApart_ofDefault {declaration : Node} (marked : declaration.isMarked) :
    ∀ n ∈ (ExportForm.ofDefault declaration).statements, IsApart target n := by
  unfold ExportForm.ofDefault
  split
  case h_1 | h_2 =>
    have parts := marked
    simp only [Node.isMarked, Node.allMarked, Bool.and_eq_true] at parts
    split
    · exact List.forall_mem_singleton.mpr (isApart_default
        (by simp [Node.isMarked, Node.allMarked, Kind.isMarked, parts]))
    · exact List.forall_mem_cons.mpr
        ⟨isApart_of_marked marked, List.forall_mem_singleton.mpr (isApart_default parts.2.1)⟩
  case h_3 => exact List.forall_mem_nil _

theorem isMerged_exported {n : Node} (exported : IsExported n) {b : ExportBinding}
    (bound : exportBinding? types n = some b) : IsMerged b.property := by
  cases exported with
  | whole => cases bound
  | @named isType offset name other inside known =>
    unfold exportBinding? at bound
    split at bound
    next heq =>
      cases heq
      split_ifs at bound
      cases bound
      rw [ExportBinding.property]
      split
      next key outside =>
        obtain rfl := otherName?_eq outside
        obtain rfl | key := known
        · cases outside
        · exact .property key name
      next => exact .shorthand inside
    next => cases bound

/-- An item becomes statements that are for exports or merge nothing. -/
theorem isApart_lowered {n : Node} (item : IsItem n) (marked : n.isMarked) :
    ∀ n' ∈ lowered target types n, IsApart target n' := by
  have becomes := becomes_lowered item target types
  generalize lowered target types n = left at becomes ⊢
  cases becomes with
  | nothing => exact List.forall_mem_nil _
  | importing idle specifier each =>
    exact isApart_import ((knownApart_written target).ofImport each _)
  | @names _ _ specifiers each =>
    have known : ∀ n ∈ (ExportForm.ofNames types specifiers).statements, KnownApart target n :=
      (knownApart_written target).ofNames each
    obtain ⟨leftOut, names⟩ := ofNames_eq types specifiers
    rw [names, ExportForm.statements] at known ⊢
    split_ifs at known ⊢
    · exact List.forall_mem_nil _
    · refine List.forall_mem_singleton.mpr
        ⟨.merge (List.forall_mem_map.mpr fun b member => ?_), known _ (List.mem_singleton_self _)⟩
      obtain ⟨n, present, bound⟩ := List.mem_filterMap.mp member
      exact isMerged_exported (each n present) bound
  | value offset value =>
    rw [Node.isMarked, Node.allMarked, Bool.and_eq_true, Bool.and_eq_true] at marked
    exact List.forall_mem_singleton.mpr (isApart_default marked.2.1)
  | declaration offset shape =>
    rw [Node.isMarked, Node.allMarked, Bool.and_eq_true, Bool.and_eq_true] at marked
    exact isApart_ofDefault marked.2.1
  | statement => exact List.forall_mem_singleton.mpr (isApart_of_marked marked)

end statements

/-! ### Modules -/

section modules

variable {k : Knowledge} {V : Type} (values : Values V)

theorem mergedNames_of_none {n : Node} (nothing : mergedProperties? n = none) :
    mergedNames n = [] := by
  rw [mergedNames, nothing]
  rfl

/-- What declares an enumeration or a namespace first merges nothing. -/
theorem mergedNames_declareFirst (before : List Node) (n : Node) :
    (Lowering.declareFirst none before n).flatMap mergedNames = [] := by
  unfold Lowering.declareFirst
  split
  · rfl
  · dsimp only
    split_ifs <;> rfl

theorem mergedNames_lowerList (before ns : List Node) :
    (Lowering.lowerList k none before ns).flatMap mergedNames =
      ns.flatMap fun n => (Lowering.lower k none n).flatMap mergedNames := by
  induction ns generalizing before with
  | nil => rfl
  | cons n rest ih =>
    rw [Lowering.lowerList, List.flatMap_append, List.flatMap_append, mergedNames_declareFirst, ih,
      List.flatMap_cons, List.nil_append]

/-- A statement that is left sets the names that it sets in the linked module, and one that is gone sets
none there. -/
theorem IsStatement.names {n : Node} (statement : IsStatement target n)
    (lack : k.Lacks mentionsModule) :
    (if (redirected target n).withoutTypeAliases.isKept
      then (Lowering.lower k none (remaining target n)).flatMap mergedNames else []) =
        (mergedEntries values (redirected target n)).map Prod.fst := by
  have unexported : k.exportedAs? (moduleObject, .unknown) = none :=
    Option.eq_none_iff_forall_ne_some.mpr fun _ exported =>
      not_lacks_module (lack.exportedAs? exported).1
  cases statement with
  | merge each =>
    rw [mergedEntries_names values each]
    exact mergedNames_lower unexported each
  | quiet linked plain =>
    have nothing := List.flatMap_eq_nil_iff.mpr fun n' member =>
      mergedNames_of_none (plain k lack n' member)
    rw [nothing, ite_self, mergedEntries, linked]
    rfl

theorem names_kept {ns : List Node} (each : ∀ n ∈ ns, IsStatement target n)
    (lack : k.Lacks mentionsModule) :
    (Node.keptWithoutTypes ((redirectedAll target ns).map Node.withoutTypeAliases)).flatMap
      (fun n => (Lowering.lower k none n).flatMap mergedNames) =
        ((redirectedAll target ns).flatMap (mergedEntries values)).map Prod.fst := by
  induction ns with
  | nil => rfl
  | cons n rest ih =>
    obtain ⟨first, others⟩ := List.forall_mem_cons.mp each
    rw [redirectedAll, List.map_cons, Node.keptWithoutTypes, List.flatMap_cons, List.map_append,
      ← first.names values lack, ← ih others]
    split_ifs <;> rfl

/-- The plain script sets the names that the linked module sets, in their order. -/
theorem mergedNames_plain {m : Module} (items : ∀ n ∈ m.items, IsItem n)
    (marked : Node.allMarked m.items) : (linkedTo target m).plain.items.flatMap mergedNames =
      ((linkedTo target m).items.flatMap (mergedEntries values)).map Prod.fst := by
  have apart : ∀ n ∈ m.items.flatMap (lowered target (typeOnlyNames m.items)), IsApart target n := by
    intro n' member
    obtain ⟨n, present, written⟩ := List.mem_flatMap.mp member
    exact isApart_lowered (items n present) (isMarked_of_mem marked present) n' written
  have ordinary := linkedTo_ordinary items target
  have lack : (Knowledge.ofItems (linkedTo target m).remains).Lacks mentionsModule := by
    refine Knowledge.lacks_ofKnown ?_
    rw [Module.remains_of_ordinary ordinary, Node.keptWithoutTypes_eq, List.forall_mem_map]
    intro n kept
    have member := List.mem_of_mem_filter kept
    simp only [linkedTo, redirectedAll_eq, List.mem_map] at member
    obtain ⟨_, ⟨n', present, rfl⟩, rfl⟩ := member
    exact (apart n' present).known
  rw [Module.plain_of_ordinary ordinary, mergedNames_lowerList]
  rw [Module.remains_of_ordinary ordinary] at lack ⊢
  exact names_kept values (fun n member => (apart n member).statement) lack

example : (linkedBeside "export { a as b }; let a").map
    (fun l => l.plain.items.flatMap mergedNames) = some ["b"] := by decide +kernel

end modules

end ScriptBundle.Rewriting
