import ScriptBundle.Proofs.Rewriting.Fates
import ScriptBundle.Proofs.Rewriting.Importing

/-! Which names of a list of exports are exported. The bundler leaves out the names that it takes for
types, and it looks at each item by itself to tell. So a name is exported if and only if a value has
it when types are gone, apart from two cases that the forms of the items tell: a name is lost if an
item makes a type of it and values have it only where they are not looked for, and a name is made up
if what looked like a value is nothing, or if nothing was said about it. -/
namespace ScriptBundle.Rewriting

open Script

section statements

variable {target : String → Identity}

theorem valueNames_redirected {n : Node} (own : OwnForm n) :
    (redirected target n).valueNames = n.valueNames := by
  have all (ns : List Node) :
      Node.boundNamesOfAll (redirectedAll target ns) = Node.boundNamesOfAll ns :=
    congrArg (·.map Prod.fst) (Node.boundSymbolsOfAll_congr (redirected_alike.2 ns))
  cases own with
  | bindings | resources =>
    rw [redirected_mk (by simp)]
    exact all _
  | type known => obtain rfl | rfl := known <;> rfl
  | @value kind _ known offset name rest =>
    have other : kind ≠ .call false := by rintro rfl; cases known
    rw [redirected_mk other, redirectedAll, valueNames_declared known, valueNames_declared known,
      name?_redirected target]
  | nameless _ values linked _ => rw [values, linked]

/-- Nothing drops a statement of the linked module before types are erased. -/
theorem keep?_redirected (usage : Usage) {types : List String} {n : Node}
    (own : ItemForm.ofNode types n = .ok (.statement n)) (shape : n.isImport → Node.IsImport n) :
    usage.keep? (redirected target n) = some (redirected target n) := by
  obtain ⟨kind, offset, parts⟩ := n
  cases kind with
  | «import» =>
    cases shape rfl
    cases own
  | exportNames =>
    rcases parts with _ | ⟨source, _ | ⟨attributes, names⟩⟩
    case cons.cons =>
      rw [ItemForm.ofNode] at own
      split_ifs at own <;> cases own
    all_goals rfl
  | exportAll => cases own
  | exportDefault =>
    rcases parts with _ | ⟨value, _ | ⟨second, rest⟩⟩
    case cons.nil => cases own
    all_goals rfl
  | «alias» =>
    rw [ItemForm.ofNode] at own
    split_ifs at own
    cases own
  | _ => exact usage.keep?_eq_some (by rw [kind_redirected]; rfl)

end statements

section imports

variable {name : String}

theorem valueNames_constant (pattern value : Node) :
    (constant pattern value).valueNames = pattern.boundNames :=
  (boundNamesOfAll_eq _).trans (List.flatMap_singleton ..)

theorem flatMap_takeNames (named : List ImportBinding) (source : Node) :
    (ImportForm.takeNames named source).flatMap Node.valueNames =
      named.flatMap (·.pattern.boundNames) := by
  unfold ImportForm.takeNames
  split
  next none => rw [List.isEmpty_iff.mp none]; rfl
  next =>
    rw [List.flatMap_singleton, valueNames_constant, boundNames_objectPattern, List.flatMap_map]

/-- What a specifier of an import binds to a value is a name for all exports or for one of them. -/
theorem survives_specifier {n : Node} (specifier : Node.IsSpecifier n) :
    Survives name (importedFates false n) ↔
      (∃ whole, whole? n = some whole ∧ name ∈ whole.boundNames) ∨
      ∃ b, importBinding? n = some b ∧ name ∈ b.pattern.boundNames := by
  have property (taken : (importBinding? n).isSome) (other : whole? n = none) :
      ((∃ whole, whole? n = some whole ∧ name ∈ whole.boundNames) ∨
        ∃ b, importBinding? n = some b ∧ name ∈ b.pattern.boundNames) ↔ name ∈ n.boundNames := by
    obtain ⟨b, known⟩ := Option.isSome_iff_exists.mp taken
    simp [other, known, ImportBinding.boundNames_pattern known]
  have one (text : String) : Survives name [(text, .value)] ↔ name ∈ [text] :=
    (@survives_map name [text] .value).trans (and_iff_left rfl)
  cases specifier with
  | default offset place text mark => exact (one text).trans (property rfl rfl).symm
  | whole offset place text mark =>
    refine (one text).trans ⟨fun bound => .inl ⟨_, rfl, bound⟩, ?_⟩
    rintro (⟨_, known, bound⟩ | ⟨_, known, -⟩) <;> cases known
    exact bound
  | named isType offset place text mark known =>
    cases isType with
    | true =>
      refine ⟨?_, ?_⟩
      · rintro ⟨fate, entry, survives⟩
        cases List.mem_singleton.mp entry
        cases survives
      · rintro (⟨_, known, -⟩ | ⟨_, known, -⟩) <;> cases known
    | false => exact (one text).trans (property rfl rfl).symm

/-- The name for all exports is that of the one specifier that gives it. -/
theorem wholeBinding?_eq_some {specifiers : List Node} {name : Node}
    (single : (specifiers.map Node.kind).count .importNamespace ≤ 1) :
    wholeBinding? specifiers = some name ↔ ∃ n ∈ specifiers, whole? n = some name := by
  constructor
  · intro known
    rw [wholeBinding?_eq] at known
    exact List.mem_filterMap.mp (List.mem_of_getLast? known)
  · rintro ⟨n, member, known⟩
    obtain ⟨before, after, rfl⟩ := List.append_of_mem member
    have kind : n.kind = .importNamespace := by
      unfold whole? at known
      split at known
      · rfl
      · cases known
    obtain ⟨first, last⟩ := others_of_whole kind single
    exact wholeBinding?_append known first last

/-- The names that an import binds to values are those that its statements bind. -/
theorem survives_specifiers {specifiers : List Node} (each : ∀ n ∈ specifiers, Node.IsSpecifier n)
    (single : (specifiers.map Node.kind).count .importNamespace ≤ 1) (specifier : String)
    (identity : Identity) : Survives name (specifiers.flatMap (importedFates false)) ↔
      name ∈ ((ImportForm.ofParts specifier specifiers).statements identity).flatMap
        Node.valueNames := by
  have named : Survives name (specifiers.flatMap (importedFates false)) ↔
      (∃ whole, wholeBinding? specifiers = some whole ∧ name ∈ whole.boundNames) ∨
      ∃ b ∈ specifiers.filterMap importBinding?, name ∈ b.pattern.boundNames := by
    simp only [survives_flatMap, wholeBinding?_eq_some single, List.mem_filterMap]
    constructor
    · rintro ⟨n, member, survives⟩
      obtain ⟨whole, known, bound⟩ | ⟨b, known, bound⟩ :=
        (survives_specifier (each n member)).mp survives
      · exact .inl ⟨whole, ⟨n, member, known⟩, bound⟩
      · exact .inr ⟨b, ⟨n, member, known⟩, bound⟩
    · rintro (⟨whole, ⟨n, member, known⟩, bound⟩ | ⟨b, ⟨n, member, known⟩, bound⟩)
      · exact ⟨n, member, (survives_specifier (each n member)).mpr (.inl ⟨whole, known, bound⟩)⟩
      · exact ⟨n, member, (survives_specifier (each n member)).mpr (.inr ⟨b, known, bound⟩)⟩
  rw [named]
  unfold ImportForm.ofParts
  split
  next empty =>
    rw [List.isEmpty_iff.mp empty]
    simp [wholeBinding?, ImportForm.statements, Node.statement, Node.valueNames]
  next =>
    dsimp only
    split
    next none =>
      rw [Bool.and_eq_true, Option.isNone_iff_eq_none, List.isEmpty_iff] at none
      simp [none.1, none.2, ImportForm.statements]
    next =>
      cases known : wholeBinding? specifiers with
      | none =>
        rw [ImportForm.statements, flatMap_takeNames]
        simp
      | some whole =>
        rw [ImportForm.statements, List.flatMap_cons, flatMap_takeNames, valueNames_constant]
        simp

end imports

section items

variable {target : String → Identity} {name : String} {usage : Usage}

/-- Whether a statement binds a name to a value and something is left of it when types are gone. -/
def StillBinds (usage : Usage) (name : String) (n : Node) : Prop :=
  name ∈ n.valueNames ∧ usage.leaves n

theorem stillBinds_redirected {n : Node} (own : OwnForm n)
    (kept : usage.keep? (redirected target n) = some (redirected target n)) :
    StillBinds usage name (redirected target n) ↔ name ∈ n.valueNames ∧ isLeft target n := by
  have left : usage.leaves (redirected target n) = isLeft target n := by
    rw [Usage.leaves, kept]
    rfl
  rw [StillBinds, left, valueNames_redirected own]

/-- What the bundler writes for exports binds no name. -/
theorem not_stillBinds_mergeExports (properties : List Node) :
    ¬StillBinds usage name (redirected target (mergeExports properties)) := by
  rintro ⟨bound, -⟩
  cases bound

/-- A default export that has a name stays as a declaration, of which something may be left. -/
theorem stillBinds_default {kind : Kind} {isDeclared : Bool} {name' : Node}
    (known : declaresValue? kind = some isDeclared) (offset : Nat) (rest : List Node) (value : Node) :
    (∃ n ∈ (ExportForm.defaultDeclaration (some (.mk kind offset (name' :: rest))) value).statements,
      StillBinds usage name (redirected target n)) ↔
      Survives name (name'.name?.toList.map
        (·, if isLeft target (.mk kind offset (name' :: rest)) then .hidden else .stray)) := by
  have kept : usage.keep? (redirected target (.mk kind offset (name' :: rest))) =
      some (redirected target (.mk kind offset (name' :: rest))) := by
    refine usage.keep?_eq_some ?_
    rw [kind_redirected]
    obtain rfl | rfl | ⟨_, rfl⟩ | ⟨_, rfl⟩ := declaresValue?_eq_some known <;> rfl
  have declared : StillBinds usage name (redirected target (.mk kind offset (name' :: rest))) ↔ _ :=
    stillBinds_redirected (.value known offset name' rest) kept
  rw [ExportForm.statements, Option.toList_some, List.singleton_append, survives_map]
  simp only [List.mem_cons, List.not_mem_nil, or_false, exists_eq_or_imp, exists_eq_left, declared,
    not_stillBinds_mergeExports, valueNames_declared known]
  cases isLeft target (.mk kind offset (name' :: rest)) <;> simp [Fate.survives]

theorem stillBinds_ofDefault (declaration : Node) :
    (∃ n ∈ (ExportForm.ofDefault declaration).statements,
      StillBinds usage name (redirected target n)) ↔
        Survives name (defaultFates target declaration) := by
  have unnamed {n : Node} (absent : n.isAbsent) : n.name? = none := by
    obtain ⟨kind, offset, parts⟩ := n
    cases kind with
    | identifier => cases absent
    | _ => rfl
  unfold ExportForm.ofDefault
  split
  case h_1 | h_2 =>
    rw [defaultFates]
    split
    next absent =>
      rw [unnamed absent, survives_map]
      simpa [ExportForm.statements] using not_stillBinds_mergeExports _
    next => exact stillBinds_default (by rfl) _ _ _
  case h_3 noFunction noClass =>
    rw [defaultFates]
    · rw [survives_map]
      simp [ExportForm.statements, Fate.survives]
    all_goals assumption

/-- No value has a name that nothing but an ambient declaration or a type has. -/
theorem not_survives_typeLevel {declaration : Node} (erased : isTypeLevel declaration) :
    ¬Survives name (declaredFates target declaration) := by
  obtain ⟨kind, offset, parts⟩ := declaration
  cases kind with
  | variableList binding isDeclared =>
    obtain rfl : isDeclared = true := erased
    rw [declaredFates, survives_declarators]
    simp
  | interface | typeAlias =>
    cases parts with
    | nil => simp [declaredFates, Survives]
    | cons => exact not_survives_map rfl
  | functionDeclaration isDeclared | classDeclaration isDeclared | «enum» _ isDeclared
  | «namespace» isDeclared =>
    obtain rfl : isDeclared = true := erased
    cases parts with
    | nil => simp [declaredFates, Survives]
    | cons => exact not_survives_map rfl
  | _ => cases erased

theorem importing_statements (target : String → Identity) (form : ImportForm) : ∃ identity,
    (ItemForm.importing form).statements target = form.statements identity := by
  cases form with
  | typeOnly => exact ⟨default, rfl⟩
  | sideEffect specifier | bindings specifier => exact ⟨target specifier, rfl⟩

/-- Types do not matter to the statements for an import. -/
theorem leaves_import (form : ImportForm) (identity : Identity) :
    ∀ n ∈ form.statements identity, usage.leaves n := by
  have taken (named : List ImportBinding) (source : Node) :
      ∀ n ∈ ImportForm.takeNames named source, usage.leaves n := by
    unfold ImportForm.takeNames
    split
    next => simp
    next => exact List.forall_mem_singleton.mpr rfl
  cases form with
  | typeOnly => simp [ImportForm.statements]
  | sideEffect specifier => exact List.forall_mem_singleton.mpr rfl
  | bindings specifier whole named =>
    cases whole with
    | none => exact taken named _
    | some whole => exact List.forall_mem_cons.mpr ⟨rfl, taken named whole⟩

/-- The names of types that are imported have no values. -/
theorem not_survives_typeImport (specifiers : List Node) :
    ¬Survives name (specifiers.flatMap (importedFates true)) := by
  rw [survives_flatMap]
  rintro ⟨n, -, survives⟩
  unfold importedFates at survives
  split at survives
  case h_1 | h_2 => exact not_survives_map (by rfl) survives
  case h_3 => simp [Survives] at survives

theorem stillBinds_import {specifiers : List Node} (each : ∀ n ∈ specifiers, Node.IsSpecifier n)
    (single : (specifiers.map Node.kind).count .importNamespace ≤ 1) (specifier : String) :
    (∃ n ∈ (ItemForm.importing (.ofParts specifier specifiers)).statements target,
      StillBinds usage name (redirected target n)) ↔
        Survives name (specifiers.flatMap (importedFates false)) := by
  obtain ⟨identity, statements⟩ :=
    importing_statements target (.ofParts specifier specifiers)
  have same : redirectedAll target
      ((ImportForm.ofParts specifier specifiers).statements identity) = _ :=
    redirectedAll_statements target each identity
  rw [survives_specifiers each single specifier identity, statements, List.mem_flatMap]
  constructor
  · rintro ⟨n, member, bound, -⟩
    refine ⟨_, ?_, bound⟩
    rw [← same, redirectedAll_eq]
    exact List.mem_map_of_mem member
  · rintro ⟨n, member, bound⟩
    have left : usage.leaves n := leaves_import _ identity n member
    rw [← same, redirectedAll_eq] at member
    obtain ⟨n', present, rfl⟩ := List.mem_map.mp member
    exact ⟨n', present, bound, left⟩

/-- A statement for an item still binds a name to a value when types are gone if the item says so. -/
theorem stillBinds_lowered {types : List String} {n : Node} {form : ItemForm}
    (known : ItemForm.ofNode types n = .ok form) (shape : n.isImport → Node.IsImport n) :
    (∃ n' ∈ lowered target types n, StillBinds usage name (redirected target n')) ↔
      Survives name (fates target n) := by
  have neither (survives : ¬Survives name (fates target n)) :
      (∃ n' ∈ [], StillBinds usage name (redirected target n')) ↔ Survives name (fates target n) := by
    simp [survives]
  have merged {properties : List Node} (nameless : fates target n = []) :
      (∃ n' ∈ [mergeExports properties], StillBinds usage name (redirected target n')) ↔
        Survives name (fates target n) := by
    simp [nameless, Survives, not_stillBinds_mergeExports]
  have lowers : lowered target types n = form.statements target := by rw [lowered, known]
  rw [lowers]
  clear lowers
  have nameless {isTypeOnly : Bool} {offset : Nat} {source : Node} {rest : List Node} :
      ¬Survives name (fates target (.mk (.exportNames isTypeOnly) offset (source :: rest))) := by
    rintro ⟨_, entry, -⟩
    cases entry
  cases hasForm known with
  | importing offset specifier =>
    cases shape rfl with
    | mk _ _ _ _ _ _ _ _ each single => exact stillBinds_import each single specifier
  | importTypes => exact neither (not_survives_typeImport _)
  | value => exact merged rfl
  | declaration offset declaration => exact stillBinds_ofDefault declaration
  | names =>
    simp only [ItemForm.statements, ExportForm.ofNames, ExportForm.statements]
    split
    · exact neither nameless
    · exact merged rfl
  | nameTypes => exact neither nameless
  | typeDeclaration offset erased => exact neither (not_survives_typeLevel erased)
  | asNamespace offset parts =>
    refine neither ?_
    rintro ⟨_, entry, -⟩
    cases parts <;> cases entry
  | aliasType isExported offset parts =>
    refine neither ?_
    cases parts with
    | nil => rintro ⟨_, entry, -⟩; cases entry
    | cons => exact not_survives_map rfl
  | statement own =>
    rw [survives_own (.ofNode own shape)]
    simpa [ItemForm.statements] using
      stillBinds_redirected (.ofNode own shape) (keep?_redirected usage own shape)

end items

section lists

variable {target : String → Identity} {name : String}

/-- A value has a name in the linked module when types are gone if an item of the module says so. -/
theorem mem_survivors_linkedTo {m : Module} (shapes : ∀ n ∈ m.items, n.isImport → Node.IsImport n)
    (supported : ∀ n ∈ m.items, ∃ form, ItemForm.ofNode (typeOnlyNames m.items) n = .ok form) :
    name ∈ (linkedTo target m).survivors ↔ Survives name (m.items.flatMap (fates target)) := by
  rw [survives_flatMap]
  have each (n : Node) (member : n ∈ m.items) : Survives name (fates target n) ↔
      ∃ n' ∈ lowered target (typeOnlyNames m.items) n,
        StillBinds (.ofItems (linkedTo target m).items) name (redirected target n') := by
    obtain ⟨form, known⟩ := supported n member
    exact (stillBinds_lowered known (shapes n member)).symm
  have items : (linkedTo target m).items =
      (m.items.flatMap (lowered target (typeOnlyNames m.items))).map (redirected target) :=
    redirectedAll_eq _
  rw [Module.survivors, List.mem_flatMap]
  constructor
  · rintro ⟨n'', kept, bound⟩
    obtain ⟨present, left⟩ := List.mem_filter.mp kept
    rw [items, List.mem_map] at present
    obtain ⟨n', written, rfl⟩ := present
    obtain ⟨n, member, lowered⟩ := List.mem_flatMap.mp written
    exact ⟨n, member, (each n member).mpr ⟨n', lowered, bound, left⟩⟩
  · rintro ⟨n, member, survives⟩
    obtain ⟨n', lowered, bound, left⟩ := (each n member).mp survives
    refine ⟨_, List.mem_filter.mpr ⟨?_, left⟩, bound⟩
    rw [items]
    exact List.mem_map_of_mem (List.mem_flatMap.mpr ⟨n, member, lowered⟩)

theorem mem_survivors_linked {disk : Disk} {importer : Path} {m : Module}
    (shapes : ∀ n ∈ m.items, n.isImport → Node.IsImport n)
    (supported : ∀ n ∈ m.items, ∃ form, ItemForm.ofNode (typeOnlyNames m.items) n = .ok form) :
    name ∈ (linked disk importer m).survivors ↔
      Survives name (m.items.flatMap (fates (Rewriting.target disk importer))) :=
  mem_survivors_linkedTo shapes supported

/-- What linking makes of some of the items of a module. -/
def linkedItems (disk : Disk) (importer : Path) (m : Module) (items : List Node) : List Node :=
  redirectedAll (Rewriting.target disk importer)
    (items.flatMap (lowered (Rewriting.target disk importer) (typeOnlyNames m.items)))

theorem linkedItems_append {disk : Disk} {importer : Path} {m : Module} (items items' : List Node) :
    linkedItems disk importer m (items ++ items') =
      linkedItems disk importer m items ++ linkedItems disk importer m items' := by
  simp [linkedItems, redirectedAll_eq]

/-- The statements for a list of exports of which no name is a type. -/
def exportAll (specifiers : List Node) : List Node :=
  (ExportForm.names (specifiers.filterMap (exportBinding? [])) []).statements

/-- A list of exports becomes a statement for the specifiers whose names are not taken for types. -/
theorem lowered_exportNames {types : List String} {offset : Nat} {source attributes : Node}
    {specifiers : List Node} (own : source.isAbsent) (named : specifiers.any isStringNamed = false) :
    lowered target types (.mk (.exportNames false) offset (source :: attributes :: specifiers)) =
      exportAll (specifiers.filter fun n => (exportBinding? types n).isSome) := by
  have kept : (specifiers.filter fun n => (exportBinding? types n).isSome).filterMap
      (exportBinding? []) = specifiers.filterMap (exportBinding? types) := by
    rw [List.filterMap_filter]
    refine List.filterMap_congr fun n _ => ?_
    unfold exportBinding?
    split
    next offset name exported _ =>
      have none : name.name?.any [].contains = false := by cases name.name? <;> rfl
      cases name.name?.any types.contains <;> simp [none]
    next => rfl
  have form : ItemForm.ofNode types (.mk (.exportNames false) offset
      (source :: attributes :: specifiers)) = .ok (.exporting (.ofNames types specifiers)) := by
    simp only [ItemForm.ofNode, own, named, Bool.not_true, Bool.false_eq_true, if_false]
  obtain ⟨left, listed⟩ := ofNames_eq types specifiers
  rw [lowered, form, exportAll, kept]
  change (ExportForm.ofNames types specifiers).statements = _
  rw [listed]
  rfl

/-- The name of the module that a specifier exports, if it is not marked as a type. -/
def exportedName? : Node → Option String
  | .mk (.exportName false) _ [name, _] => name.name?
  | _ => none

theorem isSome_exportBinding? {types : List String} {specifier : Node}
    (exported : exportedName? specifier = some name) :
    (exportBinding? types specifier).isSome ↔ name ∉ types := by
  unfold exportedName? at exported
  split at exported
  next offset binding other =>
    simp only [exportBinding?, exported, Option.any_some]
    cases isType : types.contains name <;> simp_all
  next => cases exported

/-- A list of exports becomes a statement for some of its specifiers, in their order. A name that the
module binds is among them if and only if a value has it in the linked module when types are gone,
unless it is lost or made up. -/
theorem link_keeps_values {path : Path} {source : String} {m l : Module} {disk : Disk}
    {importer : Path} {o o' : Outcome} (parsed : parseModule path source = .ok m)
    (run : ((link disk importer m.resolved).run o).alone = .ok (l, o'))
    {before after specifiers : List Node} {offset : Nat} {origin attributes : Node}
    (items : m.resolved.items =
      before ++ .mk (.exportNames false) offset (origin :: attributes :: specifiers) :: after) :
    ∃ kept, kept.Sublist specifiers ∧
      l.items = linkedItems disk importer m.resolved before ++
        (redirectedAll (Rewriting.target disk importer) (exportAll kept) ++
          linkedItems disk importer m.resolved after) ∧
      ∀ specifier ∈ specifiers, ∀ name, exportedName? specifier = some name →
        name ∈ m.resolved.boundNames →
          (specifier ∈ kept ∧ name ∉ l.survivors ↔
            MadeUp (m.resolved.items.flatMap (fates (Rewriting.target disk importer))) name) ∧
          (specifier ∉ kept ∧ name ∈ l.survivors ↔
            Lost (m.resolved.items.flatMap (fates (Rewriting.target disk importer))) name) := by
  obtain ⟨rfl, -⟩ := (link_answers m.resolved).result o l o' run
  have supported := (link_supported m.resolved).result o _ o' run
  have shapes := isImport_of_parsed parsed
  obtain ⟨own, named⟩ : origin.isAbsent ∧ specifiers.any isStringNamed = false := by
    obtain ⟨form, known⟩ := supported _ (items ▸ List.mem_append_right _ List.mem_cons_self)
    simp only [ItemForm.ofNode, Bool.false_eq_true, if_false] at known
    split_ifs at known with outside listed
    exact ⟨by simpa using outside, by simpa using listed⟩
  refine ⟨specifiers.filter fun n => (exportBinding? (typeOnlyNames m.resolved.items) n).isSome,
    List.filter_sublist, ?_, ?_⟩
  · refine (congrArg (linkedItems disk importer m.resolved) items).trans ?_
    rw [linkedItems_append, ← List.singleton_append, linkedItems_append]
    simp only [linkedItems, List.flatMap_singleton, lowered_exportNames own named]
  · intro specifier member name exported bound
    obtain ⟨n, present, bound⟩ := List.mem_flatMap.mp bound
    obtain ⟨form, known⟩ := supported n present
    obtain ⟨fate, entry⟩ : ∃ fate, (name, fate) ∈ fates (Rewriting.target disk importer) n :=
      exists_fate known (shapes n present) bound
    have here : specifier ∈ specifiers.filter (fun n =>
        (exportBinding? (typeOnlyNames m.resolved.items) n).isSome) ↔
          name ∉ typeOnlyNames m.resolved.items := by
      rw [List.mem_filter, isSome_exportBinding? exported, and_iff_right member]
    rw [here, mem_survivors_linked shapes supported]
    rw [not_not]
    exact ⟨madeUp_iff (List.mem_flatMap.mpr ⟨n, present, entry⟩), lost_iff⟩

end lists

/-- The specifiers of a list of exports. -/
def exportSpecifiers : Node → List Node
  | .mk (.exportNames false) _ (_ :: _ :: specifiers) => specifiers
  | _ => []

/-- A module with a value and a type from elsewhere, a type with the name of a constant in a pattern,
a function without a body, and a type that is the default. -/
def mixed : String :=
  "import { v, type T } from './a'; interface a {} const { a } = v; function f(): void;" ++
  "export default interface I {} export { v, T, a, f as g, I };"

theorem link_keeps_values_mixed : ∃ m l o, ∃ kept specifiers first last : List Node,
    parseModule ⟨"/m.ts"⟩ mixed = .ok m ∧
    ((link lone ⟨"/m.ts"⟩ m.resolved).run {}).alone = .ok (l, o) ∧
    specifiers.map exportedName? = ["v", "T", "a", "f", "I"].map some ∧
    l.items = first ++ (redirectedAll (target lone ⟨"/m.ts"⟩) (exportAll kept) ++ last) ∧
    ∀ specifier ∈ specifiers,
      specifier ∈ kept ↔ exportedName? specifier ∈ ["v", "f", "I"].map some := by
  have facts : ∃ m ∈ (parseModule ⟨"/m.ts"⟩ mixed).toOption,
      (∃ found ∈ ((link lone ⟨"/m.ts"⟩ m.resolved).run {}).alone.toOption,
        found.1.survivors = ["v", "a"]) ∧
      m.resolved.boundNames = ["T", "v", "a", "a", "f", "I"] ∧
      m.resolved.items.flatMap (fates (target lone ⟨"/m.ts"⟩)) = [("v", .value), ("T", .type),
        ("a", .type), ("a", .hidden), ("f", .hollow), ("I", .stray)] ∧
      ∃ n ∈ m.resolved.items,
        (exportSpecifiers n).map exportedName? = ["v", "T", "a", "f", "I"].map some := by
    decide +kernel
  obtain ⟨m, parsed, ⟨⟨l, o⟩, run, survivors⟩, boundNames, entries, n, member, named⟩ := facts
  have parsed := mem_toOption.mp parsed
  have run := mem_toOption.mp run
  have verdicts : ∀ name ∈ ["v", "T", "a", "f", "I"], name ∈ m.resolved.boundNames ∧
      (name ∈ ["v", "f", "I"] ↔
        MadeUp (m.resolved.items.flatMap (fates (target lone ⟨"/m.ts"⟩))) name ∨
        name ∈ l.survivors ∧
          ¬Lost (m.resolved.items.flatMap (fates (target lone ⟨"/m.ts"⟩))) name) := by
    rw [boundNames, entries, survivors]
    decide
  obtain ⟨before, after, items⟩ := List.append_of_mem member
  unfold exportSpecifiers at named
  split at named
  next offset origin attributes specifiers =>
    obtain ⟨kept, -, written, exact⟩ := link_keeps_values parsed run items
    refine ⟨m, l, o, kept, specifiers, _, _, parsed, run, named, written, ?_⟩
    intro specifier present
    have listed := List.mem_map_of_mem (f := exportedName?) present
    rw [named] at listed
    obtain ⟨name, known, exported⟩ := List.mem_map.mp listed
    obtain ⟨bound, verdict⟩ := verdicts name known
    obtain ⟨madeUp, lost⟩ := exact specifier present name exported.symm bound
    have mapped : some name ∈ ["v", "f", "I"].map some ↔ name ∈ ["v", "f", "I"] := by
      simp only [List.mem_map, Option.some.injEq, exists_eq_right]
    rw [← exported, mapped, verdict]
    constructor
    · intro here
      by_cases survives : name ∈ l.survivors
      · exact .inr ⟨survives, fun gone => (lost.mpr gone).1 here⟩
      · exact .inl (madeUp.mp ⟨here, survives⟩)
    · rintro (made | ⟨survives, present'⟩)
      · exact (madeUp.mpr made).1
      · by_contra missing
        exact present' (lost.mp ⟨missing, survives⟩)
  next => cases named

/-- Whether the linked module of a source exports a name, and whether a value has the name when types
are gone. -/
def exportedAndSurviving (source name : String) : Option (Bool × Bool) :=
  (linkedBeside source).map fun l =>
    ((runExports bindingNames (fun _ => none) l.items name).isSome, l.survivors.contains name)

/-- The constant of a pattern is not exported if a type has its name, and a type that is the default
is exported. -/
theorem exportNames_misjudges :
    exportedAndSurviving "interface a {} const { a } = { a: 1 }; export { a };" "a" =
      some (false, true) ∧
    exportedAndSurviving "export default interface I {} export { I };" "I" = some (true, false) := by
  decide +kernel

end ScriptBundle.Rewriting
