import Mathlib.Algebra.GroupWithZero.Nat
import ScriptBundle.Proofs.Rewriting.Merging
import ScriptBundle.Proofs.Rewriting.Surviving

/-! Default exports of functions without a body. Types are erased after a module was linked, and linking
takes such a function for a value: it writes an assignment for each, and one without a name becomes an
expression, in which nothing is erased. So the default is assigned as often as values and such functions
together are exported, a function without a body is left exactly where one without a name was the
default, and the name that is read for another one has a value only if another item gives it one. -/
namespace ScriptBundle.Rewriting

open Script
open Node (Lacks AllLack allLack_nil allLack_cons lacks_mk lacks_single lacks_pair lacks_cons lacks_neutral
  IsKey IsName IsSpecifier IsImport IsExported IsDefault IsItem)

variable {target : String → Identity} {types : List String}

/-- Whether an item exports a value as the default: an expression, a class or a function with a body. -/
def isDefaultValue : Node → Bool
  | .mk .exportDefault _ [_] => true
  | .mk .exportDefaultDeclaration _ [.mk (.functionDeclaration _) _ [_, function]] => function.hasBody
  | .mk .exportDefaultDeclaration _ [.mk (.classDeclaration _) _ [_, _]] => true
  | _ => false

/-- Whether an item exports a function without a body as the default. -/
def isDefaultSignature : Node → Bool
  | .mk .exportDefaultDeclaration _ [.mk (.functionDeclaration _) _ [_, function]] =>
    !function.hasBody
  | _ => false

/-- The name of a function or a class that is exported as the default. -/
def defaultName? : Node → Option String
  | .mk .exportDefaultDeclaration _ [.mk (.functionDeclaration _) _ (name :: _)] => name.name?
  | .mk .exportDefaultDeclaration _ [.mk (.classDeclaration _) _ (name :: _)] => name.name?
  | _ => none

theorem eq_of_signature {n : Node} (item : IsItem n) (signature : isDefaultSignature n) :
    ∃ offset place name function, (name = .absent ∨ IsName name) ∧ function.hasBody = false ∧
      n = .mk .exportDefaultDeclaration offset
        [.mk (.functionDeclaration false) place [name, function]] := by
  cases item with
  | ofDefault offset shape =>
    cases shape with
    | function place function known =>
      exact ⟨offset, place, _, function, known, by simpa [isDefaultSignature] using signature, rfl⟩
    | «class» | interface => cases signature
  | ofImport shape =>
    cases shape
    cases signature
  | ofNames | ofValue => cases signature
  | ofOther shape =>
    obtain ⟨kind, offset, parts⟩ := n
    cases kind with
    | exportDefaultDeclaration => simp [Node.isOther] at shape
    | _ => cases signature

/-- Whether a name in a list is exported as the default and not only a type. -/
def isListedDefault (types : List String) : Node → Bool
  | .mk (.exportName false) _ [name, exported] =>
    !name.name?.any types.contains && outsideName? name exported == some "default"
  | _ => false

/-- How many names in a list of exports are exported as the default. -/
def listedDefaults (types : List String) : Node → Nat
  | .mk (.exportNames false) _ (source :: _ :: specifiers) =>
    if source.isAbsent then specifiers.countP (isListedDefault types) else 0
  | _ => 0

section counts

variable {V : Type} (values : Values V)

theorem count_namedExport? (specifiers : List Node) :
    ((specifiers.filterMap (namedExport? values target types)).map Prod.fst).count "default" =
      specifiers.countP (isListedDefault types) := by
  induction specifiers with
  | nil => rfl
  | cons n rest ih =>
    have first : (((namedExport? values target types n).toList.map Prod.fst).count "default") =
        if isListedDefault types n then 1 else 0 := by
      unfold namedExport?
      split
      next offset name exported =>
        rw [isListedDefault]
        cases name.name?.any types.contains with
        | true => rfl
        | false =>
          cases outsideName? name exported with
          | none => rfl
          | some outside => simp [List.count_singleton]
      next other =>
        rw [isListedDefault]
        · rfl
        · exact other
    rw [filterMap_cons_eq, List.map_append, List.count_append, first, ih, List.countP_cons,
      Nat.add_comm]

/-- How often an item exports a default. -/
theorem count_exportsOf {n : Node} (item : IsItem n) :
    ((exportsOf values target types n).map Prod.fst).count "default" =
      (isDefaultValue n).toNat + (isDefaultSignature n).toNat + listedDefaults types n := by
  cases item with
  | ofImport shape =>
    cases shape
    rfl
  | ofNames isTypeOnly offset source attributes specifiers each =>
    cases isTypeOnly with
    | true => rfl
    | false =>
      change ((if source.isAbsent then specifiers.filterMap (namedExport? values target types)
        else []).map Prod.fst).count "default" =
          0 + 0 + if source.isAbsent then specifiers.countP (isListedDefault types) else 0
      cases source.isAbsent with
      | true => simpa using count_namedExport? values specifiers
      | false => rfl
  | ofValue => rfl
  | ofDefault offset shape =>
    cases shape with
    | function place function known =>
      change 1 = function.hasBody.toNat + (!function.hasBody).toNat + 0
      cases function.hasBody <;> rfl
    | «class» | interface => rfl
  | ofOther shape =>
    obtain ⟨kind, offset, parts⟩ := n
    cases kind with
    | exportNames | exportDefault | exportDefaultDeclaration => simp [Node.isOther] at shape
    | _ => rfl

theorem count_exportsOf_items {items : List Node} (each : ∀ n ∈ items, IsItem n) :
    ((items.flatMap (exportsOf values target types)).map Prod.fst).count "default" =
      items.countP isDefaultValue + items.countP isDefaultSignature +
        (items.map (listedDefaults types)).sum := by
  induction items with
  | nil => rfl
  | cons n rest ih =>
    obtain ⟨first, others⟩ := List.forall_mem_cons.mp each
    rw [List.flatMap_cons, List.map_append, List.count_append, count_exportsOf values first,
      ih others, List.countP_cons, List.countP_cons, List.map_cons, List.sum_cons]
    cases isDefaultValue n <;> cases isDefaultSignature n <;> simp <;> omega

end counts

/-! ### Functions without a body -/

section bodies

/-- That a function has no body: it is not made of parameters and a block alone. -/
def bodiless : Trait where
  isKind kind isWhole :=
    match kind with
    | .function .. => !isWhole
    | _ => false
  isDeep := true
  isKind_neutral {kind} neutral _ := by cases kind <;> first | rfl | cases neutral
  isKind_whole {kind} _ := by cases kind <;> rfl
  isKind_function _ _ := rfl
  isKind_unresolved _ := rfl
  isKind_name shallow := nomatch shallow

theorem lacks_identifier (name : String) (mark : Mark) :
    Lacks bodiless (.leaf (.identifier name mark)) := lacks_mk.mpr ⟨rfl, fun _ => allLack_nil⟩

theorem isKept_function (place : Nat) (name function : Node) :
    (Node.mk (.functionDeclaration false) place [name, function]).isKept = function.hasBody := by
  simp [Node.isKept, Node.isConcrete, Node.isDeclared, Node.isKeptMember]

/-- A declaration that is left is left as the default, too. -/
theorem isKept_default {declaration : Node} (kept : declaration.isKept) (offset : Nat) :
    (Node.mk .exportDefaultDeclaration offset [declaration]).isKept := by
  rw [Node.isKept, Bool.and_assoc, Bool.and_eq_true] at kept
  simpa [Node.isKept, Node.isConcrete, Node.isDeclared, Node.isKeptMember] using kept.1

/-- What becomes of an item has functions without a body only if they are left of the item, or if the
item exports one without a name as the default. -/
theorem lacks_lowered {n : Node} (item : IsItem n)
    (left : n.isKept → Lacks bodiless n.withoutTypes)
    (named : isDefaultSignature n → defaultName? n ≠ none) :
    ∀ n' ∈ lowered target types n, n'.isKept → Lacks bodiless n'.withoutTypes := by
  have written := lacks_written lacks_identifier
  have becomes := becomes_lowered item target types
  generalize lowered target types n = nodes at becomes ⊢
  cases becomes with
  | nothing => exact List.forall_mem_nil _
  | importing idle specifier each =>
    exact fun n' member _ => Node.withoutTypes_lacks.1 n' (written.ofImport each _ n' member)
  | names idle each =>
    exact fun n' member _ => Node.withoutTypes_lacks.1 n' (written.ofNames each n' member)
  | value offset value =>
    have value := allLack_values.mp ((lacks_neutral rfl).mp (left rfl))
    exact List.forall_mem_singleton.mpr fun _ => (lacks_withoutTypes_default lacks_identifier).mpr
      (List.forall_mem_singleton.mp value)
  | declaration offset shape =>
    have inside {declaration : Node} (untyped : declaration.isTypes = false) (kept : declaration.isKept)
        (left : (Node.mk .exportDefaultDeclaration offset [declaration]).isKept →
          Lacks bodiless (Node.mk .exportDefaultDeclaration offset [declaration]).withoutTypes) :
        Lacks bodiless declaration.withoutTypes :=
      List.forall_mem_singleton.mp (allLack_values.mp
        ((lacks_neutral rfl).mp (left (isKept_default kept offset)))) untyped
    cases shape with
    | function place function known =>
      obtain rfl | ⟨text, mark, place'⟩ := known
      · have body : function.hasBody := by
          by_contra missing
          exact named (by simpa [isDefaultSignature] using missing) rfl
        have parts := (lacks_neutral rfl).mp (inside rfl ((isKept_function ..).trans body) left)
        exact List.forall_mem_singleton.mpr fun _ =>
          (lacks_default lacks_identifier).mpr ((lacks_neutral rfl).mpr parts)
      · exact List.forall_mem_cons.mpr ⟨fun kept => inside rfl kept left,
          List.forall_mem_singleton.mpr fun _ =>
            (lacks_default lacks_identifier).mpr ((lacks_identifier text mark).with id id)⟩
    | «class» place body known =>
      have parts := (lacks_neutral rfl).mp (inside rfl (by rfl) left)
      obtain rfl | ⟨text, mark, place'⟩ := known
      · exact List.forall_mem_singleton.mpr fun _ =>
          (lacks_default lacks_identifier).mpr ((lacks_neutral rfl).mpr parts)
      · exact List.forall_mem_cons.mpr ⟨fun kept => inside rfl kept left,
          List.forall_mem_singleton.mpr fun _ =>
            (lacks_default lacks_identifier).mpr ((lacks_identifier text mark).with id id)⟩
    | interface place parts => exact List.forall_mem_nil _
  | statement => exact List.forall_mem_singleton.mpr left

variable {k : Knowledge}

/-- The value of a default stays in its place. -/
theorem lacks_of_lower_default {t : Trait} {value : Node}
    (lack : AllLack t (Lowering.lower k none (mergeExports [defaultProperty value]))) :
    AllLack t (Lowering.lower k none value) := by
  change AllLack t [.mk .expression 0 [.mk (.assign "=") 0 (.mk (.member false) 0 _ ::
    [.mk .object 0 (.mk .spread 0 _ ::
      [.mk .property 0 (Node.word "default" :: (Lowering.lower k none value ++ []))])])]] at lack
  have assignment := (lacks_single rfl).mp (allLack_cons.mp lack).1
  have object := ((lacks_pair rfl).mp assignment).2
  have property := (allLack_cons.mp ((lacks_cons rfl).mp object).2).1
  simpa using ((lacks_cons rfl).mp property).2

theorem mem_lowerAll {n n' : Node} {ns : List Node} (member : n ∈ ns)
    (lowered : n' ∈ Lowering.lower k none n) : n' ∈ Lowering.lowerAll k ns := by
  induction ns with
  | nil => cases member
  | cons first rest ih =>
    rw [Lowering.lowerAll, List.mem_append]
    obtain rfl | later := List.mem_cons.mp member
    · exact .inl lowered
    · exact .inr (ih later)

/-- A function without a body that became an expression has none when types are gone. -/
theorem not_allLack_signature {function : Node} (missing : function.hasBody = false) (place : Nat) :
    ¬AllLack bodiless (Lowering.lower k none
      (redirected target (.mk .functionExpression place [.absent, function])).withoutTypes) := by
  intro lack
  unfold Node.hasBody at missing
  split at missing
  next isAsync isGenerator offset parameters body types =>
    obtain ⟨kind, offset', parts⟩ := body
    obtain rfl : kind = .absent := by simpa [Node.isAbsent, Node.kind] using missing
    change AllLack bodiless [.mk .functionExpression place (_ :: [.mk (.function isAsync isGenerator)
      offset (Lowering.lowerAll k (Node.allWithoutTypes (redirectedAll target
        (parameters :: .mk .absent offset' parts :: types))))])] at lack
    have expression := (lacks_pair rfl).mp (allLack_cons.mp lack).1
    have whole := (lacks_mk.mp expression.2).1
    have left : redirected target (.mk .absent offset' parts) ∈
        (redirectedAll target (parameters :: .mk .absent offset' parts :: types)).filter
          (!·.isTypes) := List.mem_filter.mpr ⟨.tail _ (.head _), rfl⟩
    rw [Node.allWithoutTypes_eq] at whole
    have body := mem_lowerAll (k := k) (List.mem_map_of_mem (f := Node.withoutTypes) left)
      (List.mem_singleton_self _)
    have all := List.all_eq_true.mp (by simpa [bodiless] using whole) _ body
    cases all
  next => cases missing

theorem mem_lowerList {n n' : Node} {ns : List Node} (member : n ∈ ns)
    (lowered : n' ∈ Lowering.lower k none n) (before : List Node) :
    n' ∈ Lowering.lowerList k none before ns := by
  induction ns generalizing before with
  | nil => cases member
  | cons first rest ih =>
    rw [Lowering.lowerList, List.mem_append, List.mem_append]
    obtain rfl | later := List.mem_cons.mp member
    · exact .inl (.inr lowered)
    · exact .inr (ih later _)

/-- A function without a body and without a name that is the default is left in the plain script. -/
theorem not_allLack_unnamed {m : Module} (items : ∀ n ∈ m.items, IsItem n) {n : Node}
    (member : n ∈ m.items) (signature : isDefaultSignature n) (unnamed : defaultName? n = none) :
    ¬AllLack bodiless (linkedTo target m).plain.items := by
  have ordinary := linkedTo_ordinary items target
  rw [Module.plain_of_ordinary ordinary]
  intro lack
  obtain ⟨offset, place, name, function, known, missing, rfl⟩ :=
    eq_of_signature (items n member) signature
  obtain rfl | named := known
  · have present : redirected target (mergeExports [defaultProperty
        (.mk .functionExpression place [.absent, function])]) ∈ (linkedTo target m).items := by
      rw [linkedTo, redirectedAll_eq]
      exact List.mem_map_of_mem (List.mem_flatMap.mpr ⟨_, member, List.mem_singleton_self _⟩)
    have left : mergeExports [defaultProperty (redirected target
        (.mk .functionExpression place [.absent, function])).withoutTypes] ∈
          (linkedTo target m).remains := by
      rw [Module.remains_of_ordinary ordinary, Node.keptWithoutTypes_eq]
      exact List.mem_map.mpr ⟨_, List.mem_filter.mpr ⟨List.mem_map_of_mem present, rfl⟩, rfl⟩
    exact not_allLack_signature missing place (lacks_of_lower_default fun n' lowered =>
      lack n' (mem_lowerList left lowered []))
  · cases named
    cases unnamed

end bodies

/-! ### Names -/

section names

variable {name : String}

theorem isLeft_function (place : Nat) (name function : Node) :
    isLeft target (.mk (.functionDeclaration false) place [name, function]) = function.hasBody :=
  (isKept_redirected _).trans (isKept_function place name function)

theorem isLeft_class (place : Nat) (name body : Node) :
    isLeft target (.mk (.classDeclaration false) place [name, body]) :=
  isKept_redirected (.mk (.classDeclaration false) place [name, body])

/-- A class or a function with a body that is the default keeps its name. -/
theorem survives_default {n : Node} (item : IsItem n) (value : isDefaultValue n)
    (named : defaultName? n = some name) : Survives name (fates target n) := by
  have kept {declaration binding : Node} (named : binding.name? = some name)
      (left : isLeft target declaration) : Survives name (binding.name?.toList.map
        (·, if isLeft target declaration then Fate.hidden else .stray)) := by
    rw [survives_map, named, left]
    exact ⟨List.mem_singleton_self _, rfl⟩
  cases item with
  | ofDefault offset shape =>
    cases shape with
    | function place function known => exact kept named ((isLeft_function ..).trans value)
    | «class» place body known => exact kept named (isLeft_class ..)
    | interface => cases named
  | ofImport shape =>
    cases shape
    cases named
  | ofNames | ofValue => cases named
  | ofOther shape =>
    obtain ⟨kind, offset, parts⟩ := n
    cases kind with
    | exportDefaultDeclaration => simp [Node.isOther] at shape
    | _ => cases named

/-- A function without a body that is the default gives its name no value. -/
theorem not_survives_signature {n : Node} (item : IsItem n) (signature : isDefaultSignature n) :
    ¬Survives name (fates target n) := by
  obtain ⟨offset, place, name', function, -, missing, rfl⟩ := eq_of_signature item signature
  refine not_survives_map ?_
  rw [isLeft_function, missing]
  rfl

/-- The names that values have are those that an item gives a value which is no such function. -/
theorem mem_survivors_iff {m : Module} (items : ∀ n ∈ m.items, IsItem n)
    (supported : ∀ n ∈ m.items, ∃ form, ItemForm.ofNode (typeOnlyNames m.items) n = .ok form) :
    name ∈ (linkedTo target m).survivors ↔
      ∃ n ∈ m.items, isDefaultSignature n = false ∧ Survives name (fates target n) := by
  rw [mem_survivors_linkedTo (fun n member => (items n member).isImport) supported, survives_flatMap]
  refine exists_congr fun n => and_congr_right fun member => ?_
  refine (and_iff_right_of_imp fun survives => Bool.eq_false_iff.mpr fun signature => ?_).symm
  exact not_survives_signature (items n member) signature survives

end names

/-- Linking exports a default for every value and for every function without a body that is exported as
the default, in their order, and so does the plain script. Functions have no body in the script only if
they have none when types are erased in the source, or if one without a name is exported as the default,
and then there is one. The name of a class or a function with a body has a value, and that of a function
without a body has one if another item gives it one. -/
theorem link_defaults {path : Path} {source : String} {m l : Module} {o : Outcome}
    (parsed : parseModule path source = .ok m) {disk : Disk} {importer : Path} {s : Session}
    (run : (((link disk importer m.resolved).run {}).runFrom s).1 = .ok (l, o)) :
    let items := m.resolved.items
    let target := answered (s.memo.answer disk importer)
    (∀ (V : Type) (values : Values V), l.items.flatMap (mergedEntries values) =
      items.flatMap (exportsOf values target (typeOnlyNames items))) ∧
    (l.plain.items.flatMap mergedNames).count "default" =
      items.countP isDefaultValue + items.countP isDefaultSignature +
        (items.map (listedDefaults (typeOnlyNames items))).sum ∧
    (Node.anyHasTrait bodiless l.plain.items = true →
      Node.anyHasTrait bodiless (Node.keptWithoutTypes items) = true ∨
        ∃ n ∈ items, isDefaultSignature n ∧ defaultName? n = none) ∧
    ((∃ n ∈ items, isDefaultSignature n ∧ defaultName? n = none) →
      Node.anyHasTrait bodiless l.plain.items = true) ∧
    (∀ n ∈ items, isDefaultValue n → ∀ name, defaultName? n = some name → name ∈ l.survivors) ∧
    ∀ name, name ∈ l.survivors ↔
      ∃ n ∈ items, isDefaultSignature n = false ∧ Survives name (fates target n) := by
  intro items target
  have shapes := Module.isItem_resolved (isItem_of_parsed parsed)
  have forms := exists_form_of_link shapes run
  obtain ⟨rfl, -⟩ := link_ok run
  have marked := m.allMarked_resolved
  have added {V : Type} (values : Values V) : (linkedTo target m.resolved).items.flatMap
      (mergedEntries values) = items.flatMap (exportsOf values target (typeOnlyNames items)) :=
    (adds_items values marked forms).merged
  refine ⟨fun V values => added values, ?_, fun there => ?_, ?_, ?_,
    fun name => mem_survivors_iff shapes forms⟩
  · rw [mergedNames_plain bindingNames shapes marked, added bindingNames]
    exact count_exportsOf_items bindingNames shapes
  · by_contra neither
    obtain ⟨left, named⟩ := not_or.mp neither
    rw [Bool.not_eq_true, ← Node.allLack_iff, allLack_kept] at left
    have lack : AllLack bodiless (linkedTo target m.resolved).plain.items :=
      Module.plain_lacks_of_remains (allLack_remains shapes
        (lacks_written lacks_identifier).dispatch fun n member =>
          lacks_lowered (shapes n member) (left n member)
            fun signature unnamed => named ⟨n, member, signature, unnamed⟩)
    rw [Node.allLack_iff, there] at lack
    cases lack
  · rintro ⟨n, member, signature, unnamed⟩
    by_contra none
    rw [Bool.not_eq_true, ← Node.allLack_iff] at none
    exact not_allLack_unnamed shapes member signature unnamed none
  · exact fun n member value name named => (mem_survivors_linkedTo
      (fun n member => (shapes n member).isImport) forms).mpr
        (survives_flatMap.mpr ⟨n, member, survives_default (shapes n member) value named⟩)

/-- A module with a function that is exported twice as the default, once without a body, and another one
that has neither a name nor a body. -/
def overloaded : String :=
  "export default function f(a: string): void;\nexport default function f(a: any) \x7b\x7d\n" ++
  "export default function(): void;"

/-- Three defaults are assigned for one value, and a function without a body is left. -/
theorem link_defaults_overloaded : ∃ m l o, parseModule ⟨"/m.ts"⟩ overloaded = .ok m ∧
    (((link lone ⟨"/m.ts"⟩ m.resolved).run {}).runFrom {}).1 = .ok (l, o) ∧
    (l.plain.items.flatMap mergedNames).count "default" = 3 ∧
    Node.anyHasTrait bodiless l.plain.items = true ∧ "f" ∈ l.survivors := by
  have facts : ∃ m ∈ (parseModule ⟨"/m.ts"⟩ overloaded).toOption,
      (((link lone ⟨"/m.ts"⟩ m.resolved).run {}).runFrom {}).1.toOption.isSome ∧
      m.resolved.items.countP isDefaultValue = 1 ∧ m.resolved.items.countP isDefaultSignature = 2 ∧
      (m.resolved.items.map (listedDefaults (typeOnlyNames m.resolved.items))).sum = 0 ∧
      (∃ n ∈ m.resolved.items, isDefaultSignature n ∧ defaultName? n = none) ∧
      ∃ n ∈ m.resolved.items, isDefaultValue n ∧ defaultName? n = some "f" := by
    decide +kernel
  obtain ⟨m, parsed, done, values, signatures, listed, unnamed, n, member, value, named⟩ := facts
  obtain ⟨⟨l, o⟩, run⟩ := Option.isSome_iff_exists.mp done
  have parsed := mem_toOption.mp parsed
  have run := mem_toOption.mp run
  obtain ⟨-, count, -, left, survives, -⟩ := link_defaults parsed run
  refine ⟨m, l, o, parsed, run, ?_, left unnamed, survives n member value "f" named⟩
  rw [count, values, signatures, listed]

/-- How many values a source exports as the default, whether functions without a body are left when its
types are erased, and the same for the plain script that it becomes: how often it sets the default, and
whether functions without a body are left. -/
def defaultsOf (source : String) : Option ((Nat × Bool) × Nat × Bool) := do
  let m ← (parseModule ⟨"/m.ts"⟩ source).toOption
  let l ← linkedBeside source
  return ((m.resolved.items.countP isDefaultValue,
      Node.anyHasTrait bodiless (Node.keptWithoutTypes m.resolved.items)),
    (l.plain.items.flatMap mergedNames).count "default", Node.anyHasTrait bodiless l.plain.items)

/-- A function without a body is a default of its own, and stays if it has no name. -/
theorem link_keeps_signatures :
    defaultsOf "export default function f(): void;\nexport default function f(a?: any) \x7b\x7d" =
      some ((1, false), 2, false) ∧
    defaultsOf
      "export default function(a: string): void;\nexport default function(a: any) \x7b\x7d" =
        some ((1, false), 2, true) ∧
    (∃ l ∈ linkedBeside "export default function f(): void;",
      (l.plain.items.flatMap mergedNames).count "default" = 1 ∧ "f" ∉ l.survivors) := by
  decide +kernel

end ScriptBundle.Rewriting
