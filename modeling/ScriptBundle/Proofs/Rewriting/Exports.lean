import ScriptBundle.Proofs.Repetitions
import ScriptBundle.Proofs.Rewriting.Hygiene

/-! What a module exports when it runs. The statements that the bundler writes for exports add to an
object, one after the other. Read as maps from names to values they come to one update: every name
that the module exports has the value that its last export gives it, and all other names keep theirs. -/
namespace ScriptBundle.Rewriting

open Script

/-- An object with properties, each with a name and a value. -/
abbrev Properties (V : Type) := String → Option V

/-- The values that expressions have. Nothing is known of an expression that is not the name of a
binding. -/
structure Values (V : Type) where
  ofBinding : Symbol → V
  ofExpression : Node → V

variable {V : Type} (values : Values V)

def Values.of (n : Node) : V :=
  match n.symbol? with
  | some binding => values.ofBinding binding
  | none => values.ofExpression n

/-- The name of a property whose key is a word or a string. -/
def propertyName? : Node → Option String
  | .mk (.word text) _ _ => some text
  | .mk (.string text _) _ _ => some text
  | _ => none

/-- Whether an expression that the bundler wrote is what the module exports so far. -/
def isExportsSoFar : Node → Bool
  | .mk (.member false) _ [.mk (.identifier object .unknown) _ [], .mk (.word property) _ []] =>
    object = moduleObject && property = exportsProperty
  | _ => false

/-- The properties in the literal of a statement that the bundler wrote to set what is exported. -/
def mergedProperties? : Node → Option (List Node)
  | .mk .expression _ [.mk (.assign "=") _ [place, .mk .object _ properties]] =>
    if isExportsSoFar place then some properties else none
  | _ => none

/-- Sets a property, if its name is known. -/
def Properties.set (object : Properties V) (name? : Option String) (value : V) : Properties V :=
  match name? with
  | some name => Function.update object name (some value)
  | none => object

/-- What the part of an object literal adds to the parts before it, when `exports` was exported so
far. A later property of the same name wins. -/
def addPart (exports object : Properties V) : Node → Properties V
  | .mk .spread _ [inner] =>
    if isExportsSoFar inner then fun name => (exports name).or (object name) else object
  | .mk .property _ [key, value] => object.set (propertyName? key) (values.of value)
  | .mk .shorthand _ (name :: _) => object.set name.name? (values.of name)
  | _ => object

/-- Runs the statements among others that the bundler wrote to set what is exported. -/
def runExports (exports : Properties V) : List Node → Properties V
  | [] => exports
  | n :: rest =>
    match mergedProperties? n with
    | some parts => runExports (parts.foldl (addPart values exports) fun _ => none) rest
    | none => runExports exports rest

/-- What the part of an object literal adds that has a name of its own. -/
def pair? : Node → Option (String × V)
  | .mk .property _ [key, value] => (propertyName? key).map (·, values.of value)
  | .mk .shorthand _ (name :: _) => name.name?.map (·, values.of name)
  | _ => none

/-- What a statement that the bundler wrote adds to the exports, each with its name and its value. -/
def mergedEntries (n : Node) : List (String × V) :=
  ((mergedProperties? n).getD []).filterMap (pair? values)

/-- The name under which a name in a list is exported. -/
def outsideName? (name exported : Node) : Option String :=
  if exported.isAbsent then name.name? else propertyName? exported

/-- The export of a name in a list, unless the name is only a type. -/
def namedExport? (target : String → Identity) (types : List String) : Node → Option (String × V)
  | .mk (.exportName false) _ [name, exported] =>
    if name.name?.any types.contains then none
    else (outsideName? name exported).map (·, values.of (redirected target name))
  | _ => none

/-- The exports of an item, each with its name and its value, where some names are only types. -/
def exportsOf (target : String → Identity) (types : List String) : Node → List (String × V)
  | .mk .exportDefault _ [value] => [("default", values.of (redirected target value))]
  | .mk .exportDefaultDeclaration _ [.mk (.functionDeclaration _) offset [name, function]] =>
    let value := if name.isAbsent then .mk .functionExpression offset [name, function] else name
    [("default", values.of (redirected target value))]
  | .mk .exportDefaultDeclaration _ [.mk (.classDeclaration _) offset [name, body]] =>
    let value := if name.isAbsent then .mk .classExpression offset [name, body] else name
    [("default", values.of (redirected target value))]
  | .mk (.exportNames false) _ (source :: _ :: specifiers) =>
    if source.isAbsent then specifiers.filterMap (namedExport? values target types) else []
  | _ => []

/-- What a name in a list becomes, unless it is only a type. -/
def exportBinding? (types : List String) : Node → Option ExportBinding
  | .mk (.exportName false) _ [name, exported] =>
    if name.name?.any types.contains then none else some ⟨name, otherName? exported name⟩
  | _ => none

theorem ofNames_eq (types : List String) (specifiers : List Node) : ∃ leftOut,
    ExportForm.ofNames types specifiers =
      .names (specifiers.filterMap (exportBinding? types)) leftOut := by
  refine ⟨_, congrArg (ExportForm.names · _) ?_⟩
  rw [List.filter_filterMap, List.map_filterMap]
  refine List.filterMap_congr fun n _ => ?_
  fun_cases exportBinding? types n
  case case1 isType _ => simp [isType]
  case case2 notType _ => simp [notType]
  case case3 other =>
    split
    next => exact (other _ _ _ rfl).elim
    next => rfl

section literals

variable {target : String → Identity} {exports object : Properties V}

theorem redirected_sameKind (target : String → Identity) (kind : Kind) (offset : Nat)
    (parts : List Node) :
    ∃ offset' parts', redirected target (.mk kind offset parts) = .mk kind offset' parts' := by
  have same : (redirected target (.mk kind offset parts)).kind = kind := kind_redirected _
  generalize redirected target (.mk kind offset parts) = n at same
  obtain ⟨kind', offset', parts'⟩ := n
  exact ⟨offset', parts', by rw [← show kind' = kind from same]⟩

theorem symbol?_redirected (n : Node) : (redirected target n).symbol? = n.symbol? := by
  obtain ⟨kind, offset, parts⟩ := n
  obtain ⟨offset', parts', same⟩ := redirected_sameKind target kind offset parts
  rw [same]
  cases kind <;> rfl

theorem propertyName?_redirected (target : String → Identity) (n : Node) :
    propertyName? (redirected target n) = propertyName? n := by
  obtain ⟨kind, offset, parts⟩ := n
  obtain ⟨offset', parts', same⟩ := redirected_sameKind target kind offset parts
  rw [same]
  cases kind <;> rfl

theorem name?_eq (n : Node) : n.name? = n.symbol?.map (·.1) := by
  obtain ⟨kind, offset, parts⟩ := n
  cases kind <;> rfl

theorem name?_redirected (target : String → Identity) (n : Node) :
    (redirected target n).name? = n.name? := by
  rw [name?_eq, name?_eq, symbol?_redirected]

theorem pair?_property (key value : Node) :
    pair? values (redirected target (Node.property key value)) =
      (propertyName? key).map (·, values.of (redirected target value)) := by
  rw [Node.property, redirected_mk (by simp), ← propertyName?_redirected target key]
  rfl

theorem pair?_shorthand (name : Node) :
    pair? values (redirected target (Node.shorthand name)) =
      name.name?.map (·, values.of (redirected target name)) := by
  rw [Node.shorthand, redirected_mk (by simp), ← name?_redirected target name]
  rfl

/-- The property for an export sets the name that the list gives it, spelt out or not. -/
theorem pair?_export (name exported : Node) :
    pair? values (redirected target (ExportBinding.property ⟨name, otherName? exported name⟩)) =
      (outsideName? name exported).map (·, values.of (redirected target name)) := by
  unfold otherName?
  split
  next => exact pair?_shorthand values name
  next text offset parts =>
    have outside : outsideName? name (.mk (.word text) offset parts) = some text := rfl
    split_ifs with same
    · exact (pair?_shorthand values name).trans (by rw [outside, same])
    · exact pair?_property values _ name
  next other spelt _ =>
    have present : exported.isAbsent = false := by
      obtain ⟨kind, offset, parts⟩ := exported
      cases kind <;> first | rfl | exact (spelt _ _ rfl).elim
    rw [outsideName?, present]
    exact pair?_property values exported name

theorem mergedProperties?_mergeExports (properties : List Node) :
    mergedProperties? (redirected target (mergeExports properties)) =
      some (.mk .spread 0 [exportsSoFar] :: redirectedAll target properties) := rfl

end literals

section updates

variable {object : Properties V}

/-- An object with properties added one after the other. -/
def Properties.setAll (object : Properties V) (entries : List (String × V)) : Properties V :=
  entries.foldl (fun object (name, value) => object.set (some name) value) object

theorem Properties.setAll_append (entries entries' : List (String × V)) :
    object.setAll (entries ++ entries') = (object.setAll entries).setAll entries' :=
  List.foldl_append

/-- The last entry with a name decides. -/
theorem Properties.setAll_apply (entries : List (String × V)) (name : String) :
    object.setAll entries name = (entries.reverse.lookup name).or (object name) := by
  induction entries generalizing object with
  | nil => rfl
  | cons entry rest ih =>
    obtain ⟨name', value⟩ := entry
    change (object.set (some name') value).setAll rest name = _
    rw [ih, List.reverse_cons, List.lookup_append, Option.or_assoc, Properties.set]
    congr 1
    by_cases same : name = name'
    · subst same
      simp
    · rw [Function.update_of_ne same, List.lookup_cons, beq_false_of_ne same]
      rfl

end updates

section statements

variable {target : String → Identity} {types : List String}

/-- Only a statement that the bundler wrote merges exports. -/
theorem mergedProperties?_of_marked {n : Node} (marked : n.isMarked) :
    mergedProperties? (redirected target n) = none := by
  cases merged : mergedProperties? (redirected target n) with
  | none => rfl
  | some properties =>
    have written : (moduleObject, .unknown) ∈ (redirected target n).identifiers := by
      unfold mergedProperties? at merged
      split at merged
      next place offset'' properties' statement =>
        split_ifs at merged with exported
        unfold isExportsSoFar at exported
        split at exported
        next =>
          simp only [Bool.and_eq_true, decide_eq_true_eq] at exported
          rw [statement, exported.1]
          simp [Node.identifiers, Node.allIdentifiers]
        next => cases exported
      next => cases merged
    have called := (redirected_writes target).1 n marked _ written rfl
    exact absurd called (by decide)

theorem mergedProperties?_of_kind {n : Node} (other : n.kind ≠ .expression) :
    mergedProperties? (redirected target n) = none := by
  have same : (redirected target n).kind = n.kind := kind_redirected n
  unfold mergedProperties?
  split
  next statement =>
    rw [statement] at same
    exact (other same.symm).elim
  next => rfl

/-- Whether what statements add to the exports is a list of entries, whatever was exported before. -/
structure AddsEntries (ns : List Node) (entries : List (String × V)) : Prop where
  merged : ns.flatMap (mergedEntries values) = entries
  runs (exports : Properties V) : runExports values exports ns = exports.setAll entries

namespace AddsEntries

variable {values} {ns ns' : List Node} {entries entries' : List (String × V)}

theorem append (first : AddsEntries values ns entries) (second : AddsEntries values ns' entries') :
    AddsEntries values (ns ++ ns') (entries ++ entries') where
  merged := by rw [List.flatMap_append, first.merged, second.merged]
  runs exports := by
    have split : runExports values exports (ns ++ ns') =
        runExports values (runExports values exports ns) ns' := by
      clear first
      induction ns generalizing exports with
      | nil => rfl
      | cons n rest ih =>
        rw [List.cons_append, runExports, runExports]
        split <;> exact ih _
    rw [split, first.runs, second.runs, Properties.setAll_append]

/-- Statements that merge nothing export nothing. -/
theorem quiet (each : ∀ n ∈ ns, mergedProperties? n = none) : AddsEntries values ns [] where
  merged := List.flatMap_eq_nil_iff.mpr fun n member => by rw [mergedEntries, each n member]; rfl
  runs exports := by
    induction ns with
    | nil => rfl
    | cons n rest ih =>
      obtain ⟨first, others⟩ := List.forall_mem_cons.mp each
      rw [runExports, first]
      exact ih others

theorem redirectedQuiet (each : ∀ n ∈ ns, mergedProperties? (redirected target n) = none) :
    AddsEntries values (redirectedAll target ns) [] :=
  .quiet (by rw [redirectedAll_eq, List.forall_mem_map]; exact each)

end AddsEntries

theorem addPart_eq {exports object : Properties V} {part : Node} (own : part.kind ≠ .spread) :
    addPart values exports object part = object.setAll (pair? values part).toList := by
  unfold addPart
  split
  next => exact (own rfl).elim
  next offset key value =>
    rw [pair?]
    cases propertyName? key <;> rfl
  next offset name rest =>
    rw [pair?]
    cases name.name? <;> rfl
  next _ noProperty noShorthand =>
    rw [pair?]
    · rfl
    all_goals assumption

theorem foldl_addPart {exports object : Properties V} {parts : List Node}
    (own : ∀ part ∈ parts, part.kind ≠ .spread) :
    parts.foldl (addPart values exports) object =
      object.setAll (parts.filterMap (pair? values)) := by
  induction parts generalizing object with
  | nil => rfl
  | cons part rest ih =>
    obtain ⟨first, others⟩ := List.forall_mem_cons.mp own
    rw [List.foldl_cons, addPart_eq values first, ih others, filterMap_cons_eq,
      Properties.setAll_append]

/-- A statement for exports adds what its properties set. -/
theorem adds_mergeExports {properties : List Node} (own : ∀ p ∈ properties, p.kind ≠ .spread) :
    AddsEntries values [redirected target (mergeExports properties)]
      ((redirectedAll target properties).filterMap (pair? values)) where
  merged := by
    rw [List.flatMap_singleton, mergedEntries, mergedProperties?_mergeExports]
    rfl
  runs exports := by
    have spread : addPart values exports (fun _ => none) (.mk .spread 0 [exportsSoFar]) = exports :=
      funext fun name => Option.or_none
    rw [runExports, mergedProperties?_mergeExports]
    change List.foldl (addPart values exports) (addPart values exports _ _) _ = _
    rw [spread]
    refine foldl_addPart values ?_
    rw [redirectedAll_eq, List.forall_mem_map]
    exact fun p member => kind_redirected p ▸ own p member

theorem adds_default (value : Node) :
    AddsEntries values [redirected target (mergeExports [defaultProperty value])]
      [("default", values.of (redirected target value))] := by
  have entry : pair? values (redirected target (defaultProperty value)) =
      some ("default", values.of (redirected target value)) := pair?_property values _ value
  have entries : (redirectedAll target [defaultProperty value]).filterMap (pair? values) =
      [("default", values.of (redirected target value))] := by
    rw [redirectedAll, redirectedAll, List.filterMap_cons_some entry, List.filterMap_nil]
  rw [← entries]
  exact adds_mergeExports values (List.forall_mem_singleton.mpr (by rintro ⟨⟩))

/-- A declaration that is kept exports nothing by itself. -/
theorem adds_declared {declaration : Node} (other : declaration.kind ≠ .expression) (value : Node) :
    AddsEntries values (redirectedAll target
        (ExportForm.defaultDeclaration (some declaration) value).statements)
      [("default", values.of (redirected target value))] := by
  have quiet : AddsEntries values [redirected target declaration] [] :=
    .quiet (List.forall_mem_singleton.mpr (mergedProperties?_of_kind other))
  exact quiet.append (adds_default values value)

theorem adds_ofDefault (offset : Nat) (declaration : Node) :
    AddsEntries values (redirectedAll target (ExportForm.ofDefault declaration).statements)
      (exportsOf values target types (.mk .exportDefaultDeclaration offset [declaration])) := by
  unfold ExportForm.ofDefault
  split
  case h_1 | h_2 =>
    rw [exportsOf]
    split_ifs
    · exact adds_default values _
    · exact adds_declared values (by simp [Node.kind]) _
  case h_3 noFunction noClass =>
    rw [exportsOf]
    · exact .quiet (by simp [ExportForm.statements, redirectedAll])
    all_goals simp_all

/-- The property for a name in a list sets the name, if it is not only a type. -/
theorem pair?_exportBinding? (n : Node) :
    (exportBinding? types n).bind (fun b => pair? values (redirected target b.property)) =
      namedExport? values target types n := by
  unfold exportBinding? namedExport?
  split
  next offset name exported =>
    cases name.name?.any types.contains with
    | true => rfl
    | false => exact pair?_export values name exported
  next => rfl

theorem kind_property (b : ExportBinding) : b.property.kind ≠ .spread := by
  unfold ExportBinding.property
  split <;> simp [Node.property, Node.shorthand, Node.kind]

theorem adds_ofNames (specifiers : List Node) :
    AddsEntries values (redirectedAll target (ExportForm.ofNames types specifiers).statements)
      (specifiers.filterMap (namedExport? values target types)) := by
  obtain ⟨left, named⟩ := ofNames_eq types specifiers
  have entries : (redirectedAll target ((specifiers.filterMap (exportBinding? types)).map
      ExportBinding.property)).filterMap (pair? values) =
        specifiers.filterMap (namedExport? values target types) := by
    rw [redirectedAll_eq, List.filterMap_map, List.filterMap_map, List.filterMap_filterMap]
    exact List.filterMap_congr fun n _ => pair?_exportBinding? values n
  rw [← entries, named, ExportForm.statements]
  split
  next empty =>
    rw [List.isEmpty_iff.mp empty]
    exact .quiet (List.forall_mem_nil _)
  next => exact adds_mergeExports values (List.forall_mem_map.mpr fun b _ => kind_property b)

/-- What remains of an import exports nothing. -/
theorem adds_import (specifier : String) (specifiers : List Node) (identity : Identity) :
    AddsEntries values (redirectedAll target
      ((ImportForm.ofParts specifier specifiers).statements identity)) [] := by
  have constants (pattern value : Node) :
      mergedProperties? (redirected target (constant pattern value)) = none :=
    mergedProperties?_of_kind (by simp [Node.kind, constant, Node.declaration])
  have taken (named : List ImportBinding) (source : Node) :
      ∀ n ∈ ImportForm.takeNames named source, mergedProperties? (redirected target n) = none := by
    unfold ImportForm.takeNames
    split
    next => simp
    next => exact List.forall_mem_singleton.mpr (constants _ _)
  refine .redirectedQuiet ?_
  cases ImportForm.ofParts specifier specifiers with
  | typeOnly => simp [ImportForm.statements]
  | sideEffect specifier => exact List.forall_mem_singleton.mpr rfl
  | bindings specifier whole named =>
    cases whole with
    | none => exact taken named _
    | some whole => exact List.forall_mem_cons.mpr ⟨constants _ _, taken named whole⟩

/-- Statements export nothing. -/
theorem exportsOf_eq_nil {n n' : Node} (statement : ItemForm.ofNode types n = .ok (.statement n')) :
    exportsOf values target types n = [] := by
  unfold exportsOf
  split
  case h_4 =>
    rw [ItemForm.ofNode] at statement
    split_ifs at statement <;> cases statement
  case h_5 => rfl
  all_goals cases statement

/-- The statements for an item add what the item exports. -/
theorem adds_lowered {n : Node} {form : ItemForm} (marked : n.isMarked)
    (known : ItemForm.ofNode types n = .ok form) :
    AddsEntries values (redirectedAll target (lowered target types n))
      (exportsOf values target types n) := by
  have nothing : AddsEntries values (redirectedAll target []) [] := .quiet (List.forall_mem_nil _)
  have lowers : lowered target types n = form.statements target := by rw [lowered, known]
  rw [lowers]
  clear lowers
  cases hasForm known with
  | importing =>
    rw [statements_ofParts, exportsOf]
    · exact adds_import values _ _ _
    all_goals simp
  | value offset value => exact adds_default values value
  | declaration offset declaration => exact adds_ofDefault values offset declaration
  | names offset attributes here =>
    rw [exportsOf, here]
    exact adds_ofNames values _
  | importTypes | aliasType | nameTypes | typeDeclaration | asNamespace => exact nothing
  | statement own =>
    rw [exportsOf_eq_nil values own]
    exact .redirectedQuiet (List.forall_mem_singleton.mpr (mergedProperties?_of_marked marked))

theorem adds_items {items : List Node} (marked : Node.allMarked items)
    (supported : ∀ n ∈ items, ∃ form, ItemForm.ofNode types n = .ok form) :
    AddsEntries values (redirectedAll target (items.flatMap (lowered target types)))
      (items.flatMap (exportsOf values target types)) := by
  induction items with
  | nil => exact .quiet (List.forall_mem_nil _)
  | cons n rest ih =>
    simp only [Node.allMarked, Bool.and_eq_true] at marked
    obtain ⟨⟨form, known⟩, others⟩ := List.forall_mem_cons.mp supported
    rw [List.flatMap_cons, List.flatMap_cons, redirectedAll_eq, List.map_append, ← redirectedAll_eq,
      ← redirectedAll_eq]
    exact (adds_lowered values marked.1 known).append (ih marked.2 others)

end statements

/-- Running the statements for the exports of a module gives every name that the module exports the
value of its last export, and leaves all other names as they were. -/
theorem link_exports {disk : Disk} {importer : Path} {m l : Module} {o o' : Outcome}
    (run : ((link disk importer m.resolved).run o).alone = .ok (l, o')) (initial : Properties V)
    (name : String) : runExports values initial l.items name =
      ((m.resolved.items.flatMap (exportsOf values (target disk importer)
        (typeOnlyNames m.resolved.items))).reverse.lookup name).or (initial name) := by
  have supported := (link_supported m.resolved).result o l o' run
  obtain ⟨rfl, -⟩ := (link_answers m.resolved).result o l o' run
  rw [linked, (adds_items values m.allMarked_resolved supported).runs, Properties.setAll_apply]

/-- Values told apart by the names of bindings. -/
def bindingNames : Values String where
  ofBinding := (·.1)
  ofExpression _ := ""

/-- A module with lists of exports around a default, where a later export has the name of an earlier
one and another name is spelt as a string. -/
def accumulating : String :=
  "const a = 1, b = 2; interface T \x7b\x7d export \x7b a, T, b as 'b c' \x7d;" ++
  "export default function f() \x7b\x7d export \x7b b as a \x7d;"

theorem link_exports_accumulating : ∃ m l o, parseModule ⟨"/m.ts"⟩ accumulating = .ok m ∧
    ((link lone ⟨"/m.ts"⟩ m.resolved).run {}).alone = .ok (l, o) ∧
    ["a", "b c", "default", "T", "kept"].map
      (runExports bindingNames (fun name => if name = "kept" then some "" else none) l.items) =
        [some "b", some "b", some "f", none, some ""] := by
  have facts : ∃ m ∈ (parseModule ⟨"/m.ts"⟩ accumulating).toOption,
      (∃ found ∈ ((link lone ⟨"/m.ts"⟩ m.resolved).run {}).alone.toOption,
        found.2.dependencies = []) ∧
      m.resolved.items.flatMap (exportsOf bindingNames (target lone ⟨"/m.ts"⟩)
        (typeOnlyNames m.resolved.items)) =
          [("a", "a"), ("b c", "b"), ("default", "f"), ("a", "b")] := by
    decide +kernel
  obtain ⟨m, parsed, ⟨⟨l, o⟩, run, -⟩, exported⟩ := facts
  have run := mem_toOption.mp run
  refine ⟨m, l, o, mem_toOption.mp parsed, run, ?_⟩
  simp only [List.map_cons, List.map_nil, link_exports bindingNames run, exported]
  decide

end ScriptBundle.Rewriting
