import ScriptBundle.Proofs.Rewriting.Inserted

/-! Where exports stand. Linking moves nothing: what becomes of an item stands where the item stood. So
the statement that reads a name for an export comes after the statement that declares the name exactly
if the list of exports comes after the declaration, and where it comes before, the name is read too
early. -/
namespace ScriptBundle.Rewriting

open Script
open Node (IsKey IsName IsSpecifier IsImport IsExported IsDefault IsItem)

/-- The names that cannot be read before a statement has run, which declares them. -/
def declaredBy : Node → List Symbol
  | .mk (.variableList .var false) _ _ => []
  | .mk (.variableList _ false) _ declarators => Node.boundSymbolsOfAll declarators
  | .mk (.classDeclaration false) _ (name :: _) => name.boundSymbols
  | _ => []

/-- The names of values that an import binds. -/
def importedSymbols : Node → List Symbol
  | .mk (.import false) _ (_ :: _ :: specifiers) =>
    (specifiers.filter (!isTypeSpecifier ·)).flatMap Node.boundSymbols
  | _ => []

/-- The name that a property of an object literal reads. -/
def readBy? : Node → Option Symbol
  | .mk .property _ [_, value] => value.symbol?
  | .mk .shorthand _ (name :: _) => name.symbol?
  | _ => none

/-- The names that a statement reads which the bundler wrote for exports. -/
def exportReads (n : Node) : List Symbol := ((mergedProperties? n).getD []).filterMap readBy?

/-- The names that a list of exports provides from this module, with those that are types. -/
def listedSymbols : Node → List Symbol
  | .mk (.exportNames false) _ (_ :: _ :: specifiers) =>
    specifiers.filterMap fun
      | .mk (.exportName false) _ [name, _] => name.symbol?
      | _ => none
  | _ => []

section positions

variable {α β : Type} (part : α → List β) {as : List α} {a : α} {b : β} {i j : Nat}

/-- Where the parts for the elements of a list begin. -/
def partStart (as : List α) (i : Nat) : Nat := ((as.take i).flatMap part).length

theorem partStart_succ (at_ : as[i]? = some a) :
    partStart part as (i + 1) = partStart part as i + (part a).length := by
  rw [partStart, List.take_add_one, at_, Option.toList_some, List.flatMap_append, List.length_append,
    List.flatMap_singleton, partStart]

example : (List.range 4).map (partStart List.range [2, 0, 3]) = [0, 2, 2, 5] := by decide +kernel

theorem partStart_mono (as : List α) (le : i ≤ j) : partStart part as i ≤ partStart part as j := by
  obtain ⟨more, rfl⟩ := Nat.exists_eq_add_of_le le
  rw [partStart, partStart, List.take_add, List.flatMap_append, List.length_append]
  exact Nat.le_add_right _ _

/-- An element of a part stands behind the parts before, and before those behind. -/
theorem exists_place (at_ : as[i]? = some a) (inside : b ∈ part a) :
    ∃ p, (as.flatMap part)[p]? = some b ∧ partStart part as i ≤ p ∧ p < partStart part as (i + 1) := by
  obtain ⟨k, found⟩ := List.mem_iff_getElem?.mp inside
  obtain ⟨before, after, whole, taken, -⟩ := exists_split at_
  have parts : as.flatMap part = (as.take i).flatMap part ++ (part a ++ after.flatMap part) := by
    rw [← List.flatMap_cons, ← List.flatMap_append, taken, ← whole]
  have short : k < (part a).length := (List.getElem?_eq_some_iff.mp found).1
  refine ⟨partStart part as i + k, ?_, Nat.le_add_right _ _, ?_⟩
  · rw [parts, partStart, List.getElem?_append_right (Nat.le_add_right _ _),
      Nat.add_sub_cancel_left, List.getElem?_append_left short]
    exact found
  · rw [partStart_succ part at_]
    omega

/-- Elements of the parts for two places stand in the order of the places. -/
theorem partStart_lt_iff {p q : Nat} (first : partStart part as i ≤ p ∧ p < partStart part as (i + 1))
    (second : partStart part as j ≤ q ∧ q < partStart part as (j + 1)) (apart : i ≠ j) :
    p < q ↔ i < j := by
  constructor
  · intro lt
    by_contra notBefore
    have after := partStart_mono part as (show j + 1 ≤ i by omega)
    omega
  · intro lt
    have after := partStart_mono part as (show i + 1 ≤ j by omega)
    omega

end positions

section parts

variable (target : String → Identity) {x : Symbol}

theorem declaredBy_redirected (n : Node) : declaredBy (redirected target n) = declaredBy n := by
  obtain ⟨kind, offset, parts⟩ := n
  cases kind with
  | variableList binding isDeclared =>
    rw [redirected_mk (by simp)]
    have alike : List.Forall₂ Node.Alike parts (redirectedAll target parts) :=
      redirected_alike.2 parts
    have bound := Node.boundSymbolsOfAll_congr alike
    cases binding <;> cases isDeclared <;> first | rfl | exact bound
  | classDeclaration isDeclared =>
    rw [redirected_mk (by simp)]
    cases parts with
    | nil => rfl
    | cons name rest =>
      cases isDeclared with
      | true => rfl
      | false =>
        have alike : Node.Alike name (redirected target name) := redirected_alike.1 name
        exact alike.bound
  | _ =>
    obtain ⟨offset', parts', same⟩ := redirected_sameKind target _ offset parts
    rw [same]
    rfl

/-- A statement stays the only one in its place. -/
theorem linkedPart_declaredBy {n : Node} (types : List String) (declared : x ∈ declaredBy n) :
    linkedPart target types n = [redirected target n] := by
  have statement : importsOrExports n = false := by
    unfold declaredBy at declared
    split at declared
    case h_4 => cases declared
    all_goals rfl
  rw [linkedPart, linkedPart_of_statement statement, redirected_eq_replaced.1]

theorem mem_declaredBy_constant {pattern value : Node} (bound : x ∈ pattern.boundSymbols) :
    x ∈ declaredBy (constant pattern value) := by
  simpa [constant, Node.declaration, declaredBy, Node.boundSymbols, Node.boundSymbolsOfAll] using bound

/-- One of the constants that names are taken out with declares each of them. -/
theorem mem_declaredBy_takeNames {specifiers : List Node} {n source : Node} {b : ImportBinding}
    (member : n ∈ specifiers) (bound : importBinding? n = some b)
    (binds : x ∈ b.pattern.boundSymbols) :
    ∃ declaration ∈ ImportForm.takeNames (specifiers.filterMap importBinding?) source,
      x ∈ declaredBy declaration := by
  have present : b ∈ specifiers.filterMap importBinding? := List.mem_filterMap.mpr ⟨n, member, bound⟩
  rw [ImportForm.takeNames, if_neg (by simpa using ⟨n, member, by simp [bound]⟩)]
  refine ⟨_, List.mem_singleton_self _, mem_declaredBy_constant ?_⟩
  rw [Node.boundSymbols, boundSymbolsOfAll_eq]
  exact List.mem_flatMap.mpr ⟨_, List.mem_map_of_mem present, binds⟩

/-- A constant among the statements for an import declares each name of a value that it binds. -/
theorem mem_declaredBy_statements {specifier : String} {specifiers : List Node}
    (each : ∀ n ∈ specifiers, IsSpecifier n)
    (single : (specifiers.map Node.kind).count .importNamespace ≤ 1) {n : Node}
    (member : n ∈ specifiers) (value : ¬isTypeSpecifier n) (bound : x ∈ n.boundSymbols)
    (identity : Identity) :
    ∃ declaration ∈ (ImportForm.ofParts specifier specifiers).statements identity,
      x ∈ declaredBy declaration := by
  have binds := binds_of_value each ⟨n, member, value⟩
  rw [ImportForm.ofParts, if_neg (by simpa using List.ne_nil_of_mem member)]
  dsimp only
  rw [if_neg binds]
  by_cases whole : n.kind = .importNamespace
  · obtain ⟨before, after, rfl⟩ := List.append_of_mem member
    obtain ⟨first, last⟩ := others_of_whole whole single
    cases each n member with
    | whole offset place name mark =>
      rw [wholeBinding?_append rfl first last]
      exact ⟨_, List.mem_cons_self, mem_declaredBy_constant bound⟩
    | default | named => cases whole
  · obtain ⟨b, named, binds⟩ : ∃ b, importBinding? n = some b ∧ x ∈ b.pattern.boundSymbols := by
      cases each n member with
      | default => exact ⟨_, rfl, bound⟩
      | whole => exact absurd rfl whole
      | named isType offset place name mark known =>
        cases isType with
        | true => exact absurd rfl value
        | false =>
          refine ⟨_, rfl, ?_⟩
          unfold ImportBinding.pattern
          split <;> exact bound
    cases wholeBinding? specifiers with
    | none => exact mem_declaredBy_takeNames member named binds
    | some whole =>
      obtain ⟨declaration, inside, declared⟩ := mem_declaredBy_takeNames member named binds
      exact ⟨declaration, List.mem_cons_of_mem _ inside, declared⟩

/-- What becomes of a declaration or an import declares the names of values that it declared. -/
theorem exists_declaration {n : Node} (item : IsItem n) (types : List String)
    (declared : x ∈ declaredBy n ++ importedSymbols n) :
    ∃ declaration ∈ linkedPart target types n, x ∈ declaredBy declaration := by
  obtain own | imported := List.mem_append.mp declared
  · rw [linkedPart_declaredBy target types own]
    exact ⟨_, List.mem_singleton_self _, by rwa [declaredBy_redirected]⟩
  · unfold importedSymbols at imported
    split at imported
    next offset source attributes specifiers =>
      obtain ⟨n, kept, bound⟩ := List.mem_flatMap.mp imported
      obtain ⟨member, value⟩ := List.mem_filter.mp kept
      have value : ¬isTypeSpecifier n := by simpa using value
      cases item.isImport rfl with
      | mk _ _ specifier raw place parts _ _ each single =>
        have form : ItemForm.ofNode types (.mk (.import false) offset
            (.mk (.string specifier raw) place parts :: attributes :: specifiers)) =
            .ok (.importing (.ofParts specifier specifiers)) := rfl
        have needs : (ImportForm.ofParts specifier specifiers).specifier? = some specifier :=
          specifier?_ofParts each (.inr ⟨n, member, value⟩)
        rw [linkedPart, lowered, form]
        dsimp only [ItemForm.statements]
        rw [needs]
        dsimp only
        rw [redirectedAll_statements target each]
        exact mem_declaredBy_statements each single member value bound _
    next => cases imported

/-- The property for a name in a list reads the name. -/
theorem readBy?_property (name exported : Node) :
    readBy? (redirected target (ExportBinding.property ⟨name, otherName? exported name⟩)) =
      name.symbol? := by
  have same : (redirected target name).symbol? = name.symbol? := symbol?_redirected name
  rw [ExportBinding.property, ← same]
  split
  next key other =>
    rw [Node.property, redirected_mk (by simp)]
    rfl
  next =>
    rw [Node.shorthand, redirected_mk (by simp)]
    rfl

/-- A list of exports becomes one assignment that reads the listed names, apart from those of types. -/
theorem exists_assignment {n : Node} {types : List String}
    (supported : ∀ construct, ¬Unsupported n construct) (listed : x ∈ listedSymbols n)
    (value : x.1 ∉ types) :
    ∃ assignment ∈ linkedPart target types n, x ∈ exportReads assignment := by
  unfold listedSymbols at listed
  split at listed
  next offset source attributes specifiers =>
    obtain ⟨specifier, member, reads⟩ := List.mem_filterMap.mp listed
    split at reads
    next place name exported =>
      have here : source.isAbsent = true :=
        (Bool.not_eq_false _).mp fun from_ => supported _ (.reexport _ _ _ from_)
      have unnamed : specifiers.any isStringNamed = false :=
        (Bool.not_eq_true _).mp fun named => supported _ (.stringNamed _ _ here named)
      have form : ItemForm.ofNode types
          (.mk (.exportNames false) offset (source :: attributes :: specifiers)) =
          .ok (.exporting (.ofNames types specifiers)) := by
        simp [ItemForm.ofNode, here, unnamed]
      have bound : exportBinding? types (.mk (.exportName false) place [name, exported]) =
          some ⟨name, otherName? exported name⟩ := by
        rw [exportBinding?, if_neg]
        simp [name?_eq, reads, value]
      have present := List.mem_filterMap.mpr ⟨_, member, bound⟩
      obtain ⟨leftOut, names⟩ := ofNames_eq types specifiers
      rw [linkedPart, lowered, form]
      dsimp only [ItemForm.statements]
      rw [names, ExportForm.statements,
        if_neg (by simpa [List.isEmpty_iff] using List.ne_nil_of_mem present)]
      refine ⟨_, List.mem_singleton_self _, ?_⟩
      rw [exportReads, mergedProperties?_mergeExports, redirectedAll_eq]
      refine List.mem_filterMap.mpr ⟨_, ?_, (readBy?_property target name exported).trans reads⟩
      exact List.mem_cons_of_mem _ (List.mem_map_of_mem (List.mem_map_of_mem present))
    next => cases reads
  next => cases listed

end parts

/-- In a module that was linked, what reads a name for a list of exports comes after the statement that
declares the name exactly if the list comes after the declaration or the import. -/
theorem link_placement {path : Path} {source : String} {m l : Module} {o : Outcome} {disk : Disk}
    {importer : Path} {s : Session} (parsed : parseModule path source = .ok m)
    (run : (((link disk importer m.resolved).run {}).runFrom s).1 = .ok (l, o)) {i j : Nat}
    {d e : Node} {x : Symbol} (declares : m.resolved.items[i]? = some d)
    (declared : x ∈ declaredBy d ++ importedSymbols d) (exports : m.resolved.items[j]? = some e)
    (listed : x ∈ listedSymbols e) (value : x.1 ∉ typeOnlyNames m.resolved.items) :
    let items := m.resolved.items
    let part := linkedPart (answered (s.memo.answer disk importer)) (typeOnlyNames items)
    l.items = items.flatMap part ∧ ∃ (p q : Nat) (declaration assignment : Node),
      l.items[p]? = some declaration ∧ x ∈ declaredBy declaration ∧
      l.items[q]? = some assignment ∧ x ∈ exportReads assignment ∧
      (partStart part items i ≤ p ∧ p < partStart part items (i + 1)) ∧
      (partStart part items j ≤ q ∧ q < partStart part items (j + 1)) ∧
      (p < q ↔ i < j) := by
  have shapes := Module.isItem_resolved (isItem_of_parsed parsed)
  intro items part
  have whole : l.items = items.flatMap part := by
    rw [← (link_ok run).1]
    exact linkedTo_items _ _
  have supported (construct : String) : ¬Unsupported e construct := fun refused =>
    ((link_eq_ok_iff shapes s {}).mp ⟨l, o, run⟩).1 e (List.mem_of_getElem? exports) _
      (.unsupported refused)
  have apart : i ≠ j := by
    rintro rfl
    cases declares.symm.trans exports
    unfold listedSymbols at listed
    split at listed
    next => simp [declaredBy, importedSymbols] at declared
    next => cases listed
  obtain ⟨declaration, inside, binds⟩ := exists_declaration
    (answered (s.memo.answer disk importer)) (shapes d (List.mem_of_getElem? declares))
    (typeOnlyNames items) declared
  obtain ⟨assignment, within, reads⟩ := exists_assignment
    (answered (s.memo.answer disk importer)) supported listed value
  obtain ⟨p, first, placed⟩ := exists_place part declares inside
  obtain ⟨q, second, placed'⟩ := exists_place part exports within
  rw [whole]
  exact ⟨rfl, p, q, declaration, assignment, first, binds, second, reads, placed, placed',
    partStart_lt_iff part placed placed' apart⟩

/-- A module with a list of exports after a constant and before an import. -/
def between : String := "const a = 1;\nexport \x7b a, b \x7d;\nimport \x7b b \x7d from './a';"

theorem link_placement_between : ∃ m l o, parseModule ⟨"/m.ts"⟩ between = .ok m ∧
    (((link lone ⟨"/m.ts"⟩ m.resolved).run {}).runFrom {}).1 = .ok (l, o) ∧
    (∃ (p q : Nat) (declaration assignment : Node), p < q ∧ l.items[p]? = some declaration ∧
      ("a", .scope 0) ∈ declaredBy declaration ∧ l.items[q]? = some assignment ∧
      ("a", .scope 0) ∈ exportReads assignment) ∧
    ∃ (p q : Nat) (declaration assignment : Node), ¬p < q ∧ l.items[p]? = some declaration ∧
      ("b", .scope 0) ∈ declaredBy declaration ∧ l.items[q]? = some assignment ∧
      ("b", .scope 0) ∈ exportReads assignment := by
  have facts : ∃ m ∈ (parseModule ⟨"/m.ts"⟩ between).toOption,
      (∃ found ∈ (((link lone ⟨"/m.ts"⟩ m.resolved).run {}).runFrom {}).1.toOption,
        found.2.dependencies = [⟨"/a.ts"⟩]) ∧
      (∃ a ∈ m.resolved.items[0]?, ("a", .scope 0) ∈ declaredBy a ++ importedSymbols a) ∧
      (∃ e ∈ m.resolved.items[1]?, ("a", .scope 0) ∈ listedSymbols e ∧
        ("b", .scope 0) ∈ listedSymbols e) ∧
      (∃ b ∈ m.resolved.items[2]?, ("b", .scope 0) ∈ declaredBy b ++ importedSymbols b) ∧
      typeOnlyNames m.resolved.items = [] := by
    decide +kernel
  obtain ⟨m, parsed, ⟨⟨l, o⟩, run, -⟩, ⟨a, first, declaresA⟩, ⟨e, second, listedA, listedB⟩,
    ⟨b, third, declaresB⟩, types⟩ := facts
  have parsed := mem_toOption.mp parsed
  have run := mem_toOption.mp run
  have value (name : String) : name ∉ typeOnlyNames m.resolved.items := by simp [types]
  obtain ⟨-, p, q, declaration, assignment, atP, declared, atQ, reads, -, -, order⟩ :=
    link_placement parsed run first declaresA second listedA (value _)
  obtain ⟨-, p', q', declaration', assignment', atP', declared', atQ', reads', -, -, order'⟩ :=
    link_placement parsed run third declaresB second listedB (value _)
  exact ⟨m, l, o, parsed, run, ⟨p, q, _, _, order.mpr (by decide), atP, declared, atQ, reads⟩,
    p', q', _, _, fun lt => absurd (order'.mp lt) (by decide), atP', declared', atQ', reads'⟩

/-- Where a list of exports comes first, the assignment does. -/
theorem link_placement_early :
    ∃ m ∈ (parseModule ⟨"/m.ts"⟩ "export \x7b a \x7d;\nconst a = 1;").toOption,
      ∃ found ∈ (((link lone ⟨"/m.ts"⟩ m.resolved).run {}).runFrom {}).1.toOption,
        found.1.items.map exportReads = [[("a", .scope 0)], []] ∧
          found.1.items.map declaredBy = [[], [("a", .scope 0)]] := by
  decide +kernel

end ScriptBundle.Rewriting
