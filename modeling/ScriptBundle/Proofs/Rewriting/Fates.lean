import ScriptBundle.Proofs.Rewriting.Exports
import ScriptBundle.Proofs.Script.Imports
import ScriptBundle.Proofs.Script.Survivors

/-! How the items of a module treat the names that they bind. Each form of an item says of its names
whether they are taken for values, for types or for neither, and whether a value has them when types
are gone. The names that are left out of exports are those that are taken for types and never for
values; so they are not always those that no value has. -/
namespace ScriptBundle.Rewriting

open Script

/-- How an item treats a name that it binds. -/
inductive Fate where
  /-- The name is taken for a value and has one. -/
  | value
  /-- The name has a value, which is not looked for. -/
  | hidden
  /-- The name is taken for a value, but nothing is left of the item. -/
  | hollow
  /-- The name is taken for a type, and nothing is left of the item. -/
  | type
  /-- The name is not looked for, and nothing is left of the item. -/
  | stray
  deriving DecidableEq

section fates

variable (target : String → Identity)

/-- Whether something is left of an item of the linked module when types are gone. -/
def isLeft (n : Node) : Bool := (redirected target n).withoutTypeAliases.isKept

/-- Variables are looked for by their names alone and not in patterns. -/
def declaratorFates (isDeclared : Bool) : Node → List (String × Fate)
  | .mk .declarator _ (pattern :: _) =>
    match pattern.name? with
    | some name => [(name, if isDeclared then .type else .value)]
    | none => pattern.boundNames.map (·, if isDeclared then .stray else .hidden)
  | n => n.boundNames.map (·, if isDeclared then .stray else .hidden)

/-- The names that a declaration binds. A function without a body, or a namespace with nothing but
types in it, is taken for a value. -/
def declaredFates : Node → List (String × Fate)
  | .mk (.variableList _ isDeclared) _ declarators =>
    declarators.flatMap (declaratorFates isDeclared)
  | .mk (.using _) _ declarators => (Node.boundNamesOfAll declarators).map (·, .hidden)
  | .mk kind offset (name :: rest) =>
    match kind with
    | .interface | .typeAlias => name.name?.toList.map (·, .type)
    | .functionDeclaration isDeclared | .classDeclaration isDeclared | .enum _ isDeclared
    | .namespace isDeclared _ =>
      name.name?.toList.map (·, if isDeclared then .type
        else if isLeft target (.mk kind offset (name :: rest)) then .value else .hollow)
    | _ => []
  | _ => []

/-- The names that a default export binds are not looked for. -/
def defaultFates : Node → List (String × Fate)
  | .mk (.functionDeclaration isDeclared) offset [name, function] =>
    name.name?.toList.map (·,
      if isLeft target (.mk (.functionDeclaration isDeclared) offset [name, function]) then .hidden
      else .stray)
  | .mk (.classDeclaration isDeclared) offset [name, body] =>
    name.name?.toList.map (·,
      if isLeft target (.mk (.classDeclaration isDeclared) offset [name, body]) then .hidden
      else .stray)
  | declaration => (declaration.typeNames ++ declaration.valueNames).map (·, .stray)

def importedFates (isTypeOnly : Bool) : Node → List (String × Fate)
  | .mk (.importNamed isType) _ [_, name] =>
    name.name?.toList.map (·, if isTypeOnly || isType then .type else .value)
  | .mk _ _ [name] => name.name?.toList.map (·, if isTypeOnly then .type else .value)
  | _ => []

/-- The names that an item binds, and how it treats them. -/
def fates : Node → List (String × Fate)
  | .mk (.import isTypeOnly) _ (_ :: _ :: specifiers) =>
    specifiers.flatMap (importedFates isTypeOnly)
  | .mk .exportDeclaration _ [declaration] => declaredFates target declaration
  | .mk .exportDefaultDeclaration _ [declaration] => defaultFates target declaration
  | .mk (.alias ..) _ (name :: _) => name.name?.toList.map (·, .stray)
  | n => declaredFates target n

end fates

section known

variable {target : String → Identity}

/-- What a name is taken for. -/
def Fate.takenFor? : Fate → Option Bool
  | .value | .hollow => some false
  | .type => some true
  | .hidden | .stray => none

/-- Whether a value has the name when types are gone. -/
def Fate.survives : Fate → Bool
  | .value | .hidden => true
  | .hollow | .type | .stray => false

/-- The name that an item makes known if its fate is to be looked for. -/
def knownAs? (entry : String × Fate) : Option (String × Bool) :=
  entry.2.takenFor?.map (entry.1, ·)

theorem knownAs?_map (names : List String) {fate : Fate} {isType : Bool}
    (taken : fate.takenFor? = some isType) :
    (names.map (·, fate)).filterMap knownAs? = names.map (·, isType) := by
  rw [List.filterMap_map]
  exact List.filterMap_eq_map_iff_forall_eq_some.mpr fun name _ => by
    rw [Function.comp, knownAs?, taken]; rfl

theorem knownAs?_map_eq_nil (names : List String) {fate : Fate} (other : fate.takenFor? = none) :
    (names.map (·, fate)).filterMap knownAs? = [] := by
  rw [List.filterMap_map]
  exact List.filterMap_eq_nil_iff.mpr fun name _ => by rw [Function.comp, knownAs?, other]; rfl

theorem knownAs?_declarators (isDeclared : Bool) (declarators : List Node) :
    (declarators.flatMap (declaratorFates isDeclared)).filterMap knownAs? =
      (declarators.filterMap fun
        | .mk .declarator _ (pattern :: _) => pattern.name?
        | _ => none).map (·, isDeclared) := by
  rw [List.filterMap_flatMap, List.filterMap_eq_flatMap_toList, List.map_flatMap]
  refine List.flatMap_congr fun n _ => ?_
  unfold declaratorFates
  split
  next offset pattern rest _ =>
    cases pattern.name? with
    | some name => cases isDeclared <;> rfl
    | none => exact knownAs?_map_eq_nil _ (by cases isDeclared <;> rfl)
  next => exact knownAs?_map_eq_nil _ (by cases isDeclared <;> rfl)

/-- What a declaration makes known are the names that are looked for. -/
theorem knownAs?_declared (n : Node) :
    (declaredFates target n).filterMap knownAs? = (declaredNames n).map (·, isTypeLevel n) := by
  unfold declaredFates
  split
  next => exact knownAs?_declarators _ _
  next isAwait offset declarators =>
    rw [knownAs?_map_eq_nil _ (by rfl)]
    cases declarators <;> rfl
  next kind offset name rest _ _ =>
    split
    case h_1 | h_2 => exact knownAs?_map _ (by rfl)
    case h_3 | h_4 | h_5 | h_6 =>
      refine knownAs?_map _ ?_
      split_ifs with declared left
      all_goals simp_all [isTypeLevel, Fate.takenFor?]
    case h_7 =>
      rw [declaredNames]
      · rfl
      all_goals assumption
  next lists _ others =>
    rw [declaredNames]
    · rfl
    · exact fun _ _ _ _ same => lists _ _ _ _ same
    · exact fun _ _ _ _ same => others _ _ _ _ same

theorem knownAs?_imported (isTypeOnly : Bool) (n : Node) :
    (importedFates isTypeOnly n).filterMap knownAs? = (importedName? isTypeOnly n).toList := by
  have seen (name : Node) (isType : Bool) : (name.name?.toList.map
      (·, if isType then Fate.type else .value)).filterMap knownAs? =
        (name.name?.map (·, isType)).toList := by
    have taken : (if isType then Fate.type else .value).takenFor? = some isType := by
      cases isType <;> rfl
    rw [knownAs?_map _ taken]
    cases name.name? <;> rfl
  unfold importedFates
  split
  next isType _ _ name => exact seen name (isTypeOnly || isType)
  next kind _ name =>
    simp only [importedName?]
    exact seen name isTypeOnly
  next =>
    rw [importedName?]
    · rfl
    all_goals assumption

/-- What an item makes known are the names that are looked for. -/
theorem knownAs?_fates (n : Node) : (fates target n).filterMap knownAs? = knownNames n := by
  unfold fates
  split
  next isTypeOnly offset source attributes specifiers =>
    change _ = specifiers.filterMap (importedName? isTypeOnly)
    rw [List.filterMap_flatMap, List.filterMap_eq_flatMap_toList]
    exact List.flatMap_congr fun n _ => knownAs?_imported isTypeOnly n
  next offset declaration => exact knownAs?_declared declaration
  next offset declaration =>
    change _ = []
    unfold defaultFates
    split <;> refine knownAs?_map_eq_nil _ ?_
    case h_3 => rfl
    all_goals split_ifs <;> rfl
  next => exact knownAs?_map_eq_nil _ (by rfl)
  next imports exported _ _ =>
    rw [knownNames]
    · exact knownAs?_declared _
    all_goals assumption

end known

section own

variable {target : String → Identity} {name : String}

/-- Whether a kind is that of a declaration with one name for a value, and whether it only declares
what is elsewhere. -/
def declaresValue? : Kind → Option Bool
  | .functionDeclaration isDeclared | .classDeclaration isDeclared | .enum _ isDeclared
  | .namespace isDeclared _ => some isDeclared
  | _ => none

theorem declaresValue?_eq_some {kind : Kind} {isDeclared : Bool}
    (known : declaresValue? kind = some isDeclared) :
    kind = .functionDeclaration isDeclared ∨ kind = .classDeclaration isDeclared ∨
      (∃ isConst, kind = .enum isConst isDeclared) ∨
      ∃ isGlobal, kind = .namespace isDeclared isGlobal := by
  unfold declaresValue? at known
  split at known <;> cases known <;> simp

/-- The forms of the items that link nothing: they declare variables, or one name for a type or a
value, or nothing. -/
inductive OwnForm : Node → Prop
  | bindings (binding : Binding) (isDeclared : Bool) (offset : Nat) (declarators : List Node) :
    OwnForm (.mk (.variableList binding isDeclared) offset declarators)
  | resources (isAwait : Bool) (offset : Nat) (declarators : List Node) :
    OwnForm (.mk (.using isAwait) offset declarators)
  | type {kind : Kind} (known : kind = .interface ∨ kind = .typeAlias) (offset : Nat) (name : Node)
    (rest : List Node) : OwnForm (.mk kind offset (name :: rest))
  | value {kind : Kind} {isDeclared : Bool} (known : declaresValue? kind = some isDeclared)
    (offset : Nat) (name : Node) (rest : List Node) : OwnForm (.mk kind offset (name :: rest))
  | nameless {n : Node} (types : n.typeNames = []) (values : n.valueNames = [])
    (linked : ∀ target, (redirected target n).valueNames = [])
    (fates : ∀ target, fates target n = []) : OwnForm n

theorem OwnForm.ofNode {types : List String} {n : Node}
    (own : ItemForm.ofNode types n = .ok (.statement n)) (shape : n.isImport → Node.IsImport n) :
    OwnForm n := by
  obtain ⟨kind, offset, parts⟩ := n
  cases kind with
  | variableList binding isDeclared => exact .bindings ..
  | «using» isAwait => exact .resources ..
  | «import» isTypeOnly =>
    cases shape rfl
    cases own
  | exportDeclaration =>
    rcases parts with _ | ⟨first, _ | ⟨second, rest⟩⟩
    case cons.nil =>
      rw [ItemForm.ofNode] at own
      split_ifs at own
      cases own
    all_goals exact .nameless rfl rfl (fun _ => rfl) fun _ => rfl
  | exportDefaultDeclaration =>
    rcases parts with _ | ⟨first, _ | ⟨second, rest⟩⟩
    case cons.nil => cases own
    all_goals exact .nameless rfl rfl (fun _ => rfl) fun _ => rfl
  | «alias» isExported isTypeOnly =>
    rw [ItemForm.ofNode] at own
    split_ifs at own
    cases own
  | interface =>
    cases parts with
    | nil => exact .nameless rfl rfl (fun _ => rfl) fun _ => rfl
    | cons name rest => exact .type (.inl rfl) ..
  | typeAlias =>
    cases parts with
    | nil => exact .nameless rfl rfl (fun _ => rfl) fun _ => rfl
    | cons name rest => exact .type (.inr rfl) ..
  | functionDeclaration | classDeclaration | «enum» | «namespace» =>
    cases parts with
    | nil => exact .nameless rfl rfl (fun _ => rfl) fun _ => rfl
    | cons name rest => exact .value rfl ..
  | call isOptional =>
    refine .nameless rfl rfl (fun target => ?_) fun _ => by cases parts <;> rfl
    rw [redirected]
    obtain kept | ⟨-, identity, dispatched⟩ :=
      redirectedCall_eq target (.mk (.call isOptional) offset (redirectedAll target parts))
    · rw [kept]; rfl
    · rw [dispatched]; rfl
  | _ => exact .nameless rfl rfl (fun _ => rfl) fun _ => by cases parts <;> rfl

theorem boundNames_of_name? {n : Node} (named : n.name? = some name) : n.boundNames = [name] := by
  unfold Node.name? at named
  split at named
  next =>
    cases named
    rfl
  next => cases named

theorem map_fst_fate (names : List String) (fate : Fate) :
    (names.map (·, fate)).map Prod.fst = names := by simp [Function.comp_def]

theorem map_fst_declarators (isDeclared : Bool) (declarators : List Node) :
    (declarators.flatMap (declaratorFates isDeclared)).map Prod.fst =
      Node.boundNamesOfAll declarators := by
  rw [List.map_flatMap, boundNamesOfAll_eq]
  refine List.flatMap_congr fun n _ => ?_
  unfold declaratorFates
  split
  next offset pattern rest _ =>
    change _ = pattern.boundNames
    cases named : pattern.name? with
    | some name => rw [boundNames_of_name? named]; rfl
    | none => exact map_fst_fate _ _
  next => exact map_fst_fate _ _

/-- The names of a declaration are those that it binds to types or to values. -/
theorem map_fst_own {n : Node} (own : OwnForm n) :
    (fates target n).map Prod.fst = n.typeNames ++ n.valueNames := by
  cases own with
  | bindings => exact map_fst_declarators _ _
  | resources => exact map_fst_fate _ _
  | type known =>
    obtain rfl | rfl := known <;> exact (map_fst_fate _ _).trans (List.append_nil _).symm
  | value known =>
    obtain rfl | rfl | ⟨_, rfl⟩ | ⟨_, rfl⟩ := declaresValue?_eq_some known <;>
      exact map_fst_fate _ _
  | nameless types values _ fates => rw [types, values, fates]; rfl

/-- Whether one of the entries says that a value has the name when types are gone. -/
def Survives (name : String) (entries : List (String × Fate)) : Prop :=
  ∃ fate, (name, fate) ∈ entries ∧ fate.survives

theorem survives_map {names : List String} {fate : Fate} :
    Survives name (names.map (·, fate)) ↔ name ∈ names ∧ fate.survives := by
  simp [Survives]

theorem not_survives_map {names : List String} {fate : Fate} (gone : fate.survives = false) :
    ¬Survives name (names.map (·, fate)) := by
  simp [survives_map, gone]

theorem survives_flatMap {α : Type} {entries : α → List (String × Fate)} {as : List α} :
    Survives name (as.flatMap entries) ↔ ∃ a ∈ as, Survives name (entries a) := by
  constructor
  · rintro ⟨fate, entry, survives⟩
    obtain ⟨a, member, entry⟩ := List.mem_flatMap.mp entry
    exact ⟨a, member, fate, entry, survives⟩
  · rintro ⟨a, member, fate, entry, survives⟩
    exact ⟨fate, List.mem_flatMap.mpr ⟨a, member, entry⟩, survives⟩

theorem isLeft_mk {kind : Kind} (other : kind ≠ .call false) (block : kind ≠ .namespaceBlock)
    (space : ∀ isDeclared isGlobal, kind ≠ .namespace isDeclared isGlobal)
    (exported : kind ≠ .exportDeclaration) (offset : Nat) (parts : List Node) :
    isLeft target (.mk kind offset parts) =
      (Node.mk kind offset (redirectedAll target parts)).isKept := by
  rw [isLeft, redirected_mk other, Node.withoutTypeAliases]
  all_goals simp_all

/-- Nothing is left of a declaration of what is elsewhere. -/
theorem isLeft_declared {kind : Kind} (declared : declaresValue? kind = some true) (offset : Nat)
    (parts : List Node) : isLeft target (.mk kind offset parts) = false := by
  obtain rfl | rfl | ⟨_, rfl⟩ | ⟨_, rfl⟩ := declaresValue?_eq_some declared
  case inr.inr.inr =>
    rw [isLeft, redirected_mk (by simp)]
    unfold Node.withoutTypeAliases
    split <;> simp_all [Node.isKept, Node.isDeclared]
  all_goals
    rw [isLeft_mk (by simp) (by simp) (by simp) (by simp)]
    simp [Node.isKept, Node.isDeclared]

theorem valueNames_declared {kind : Kind} {isDeclared : Bool}
    (known : declaresValue? kind = some isDeclared) (offset : Nat) (name : Node) (rest : List Node) :
    (Node.mk kind offset (name :: rest)).valueNames = name.name?.toList := by
  obtain rfl | rfl | ⟨_, rfl⟩ | ⟨_, rfl⟩ := declaresValue?_eq_some known <;> rfl

theorem survives_declarators (isDeclared : Bool) (declarators : List Node) :
    Survives name (declarators.flatMap (declaratorFates isDeclared)) ↔
      name ∈ Node.boundNamesOfAll declarators ∧ isDeclared = false := by
  have each (n : Node) : Survives name (declaratorFates isDeclared n) ↔
      name ∈ n.boundNames ∧ isDeclared = false := by
    unfold declaratorFates
    split
    next offset pattern rest =>
      change _ ↔ name ∈ pattern.boundNames ∧ _
      cases named : pattern.name? with
      | some name =>
        rw [boundNames_of_name? named]
        cases isDeclared <;> simp [Survives, Fate.survives]
      | none => exact survives_map.trans (by cases isDeclared <;> simp [Fate.survives])
    next => exact survives_map.trans (by cases isDeclared <;> simp [Fate.survives])
  rw [survives_flatMap, boundNamesOfAll_eq, List.mem_flatMap]
  simp only [each, ← and_assoc, exists_and_right]

/-- A value has a name that a declaration binds if something is left of the declaration. -/
theorem survives_own {n : Node} (own : OwnForm n) :
    Survives name (fates target n) ↔ name ∈ n.valueNames ∧ isLeft target n := by
  cases own with
  | bindings binding isDeclared offset declarators =>
    rw [isLeft_mk (by simp) (by simp) (by simp) (by simp)]
    have kept : (Node.mk (.variableList binding isDeclared) offset
        (redirectedAll target declarators)).isKept = !isDeclared := by cases isDeclared <;> rfl
    rw [kept, Bool.not_eq_true']
    exact survives_declarators _ _
  | resources isAwait offset declarators =>
    rw [isLeft_mk (by simp) (by simp) (by simp) (by simp)]
    exact survives_map
  | type known =>
    obtain rfl | rfl := known <;> exact survives_map.trans (by simp [Fate.survives, Node.valueNames])
  | @value kind isDeclared known offset name' rest =>
    have fates : fates target (.mk kind offset (name' :: rest)) = name'.name?.toList.map
        (·, if isDeclared then .type
          else if isLeft target (.mk kind offset (name' :: rest)) then .value else .hollow) := by
      obtain rfl | rfl | ⟨_, rfl⟩ | ⟨_, rfl⟩ := declaresValue?_eq_some known <;> rfl
    rw [fates, valueNames_declared known, survives_map]
    cases isDeclared with
    | true => simp [Fate.survives, isLeft_declared known]
    | false => cases isLeft target (.mk kind offset (name' :: rest)) <;> simp [Fate.survives]
  | nameless _ values _ fates => simp [values, fates, Survives]

end own

section bound

variable {target : String → Identity} {name : String}

theorem exists_fate_import {n source attributes : Node} {isTypeOnly : Bool} {offset : Nat}
    {specifiers : List Node} (each : ∀ n ∈ specifiers, Node.IsSpecifier n)
    (shape : n = .mk (.import isTypeOnly) offset (source :: attributes :: specifiers))
    (bound : name ∈ n.typeNames ++ n.valueNames) :
    ∃ fate, (name, fate) ∈ specifiers.flatMap (importedFates isTypeOnly) := by
  subst shape
  suffices ∃ n ∈ specifiers, name ∈ n.boundNames by
    obtain ⟨n, member, bound⟩ := this
    suffices ∃ fate, (name, fate) ∈ importedFates isTypeOnly n by
      obtain ⟨fate, entry⟩ := this
      exact ⟨fate, List.mem_flatMap.mpr ⟨n, member, entry⟩⟩
    cases each n member <;> cases List.mem_singleton.mp bound <;>
      exact ⟨_, List.mem_singleton_self _⟩
  obtain bound | bound := List.mem_append.mp bound
  all_goals
    obtain ⟨n, member, bound⟩ := List.mem_filterMap.mp bound
    refine ⟨n, member, ?_⟩
    cases each n member with
    | default | whole | named =>
      dsimp only at bound
      split_ifs at bound
      cases bound
      exact List.mem_singleton_self _

theorem own_of_typeLevel (target : String → Identity) {declaration : Node}
    (erased : isTypeLevel declaration) :
    OwnForm declaration ∧ fates target declaration = declaredFates target declaration := by
  obtain ⟨kind, offset, parts⟩ := declaration
  have own (statement : ItemForm.ofNode [] (.mk kind offset parts) =
      .ok (.statement (.mk kind offset parts)))
      (other : (Node.mk kind offset parts).isImport = false) :
      OwnForm (.mk kind offset parts) := .ofNode statement (by simp [other])
  cases kind with
  | variableList | interface | typeAlias | functionDeclaration | classDeclaration | «enum»
  | «namespace» => exact ⟨own rfl rfl, rfl⟩
  | _ => cases erased

/-- An item says of every name that it binds how it treats the name. -/
theorem exists_fate {types : List String} {n : Node} {form : ItemForm}
    (known : ItemForm.ofNode types n = .ok form) (shape : n.isImport → Node.IsImport n)
    (bound : name ∈ n.typeNames ++ n.valueNames) : ∃ fate, (name, fate) ∈ fates target n := by
  have ofOwn {n : Node} (own : OwnForm n) (bound : name ∈ n.typeNames ++ n.valueNames) :
      ∃ fate, (name, fate) ∈ fates target n := by
    have names : (fates target n).map Prod.fst = n.typeNames ++ n.valueNames := map_fst_own own
    rw [← names, List.mem_map] at bound
    obtain ⟨⟨_, fate⟩, entry, rfl⟩ := bound
    exact ⟨fate, entry⟩
  cases hasForm known with
  | importing | importTypes =>
    cases shape rfl with
    | mk _ _ _ _ _ _ _ _ each single => exact exists_fate_import each rfl bound
  | value | names | nameTypes | asNamespace => cases bound
  | declaration offset declaration =>
    change name ∈ declaration.typeNames ++ declaration.valueNames at bound
    change ∃ fate, (name, fate) ∈ defaultFates target declaration
    unfold defaultFates
    split <;> exact ⟨_, List.mem_map_of_mem bound⟩
  | @typeDeclaration offset declaration erased =>
    obtain ⟨own, same⟩ := own_of_typeLevel target erased
    change ∃ fate, (name, fate) ∈ declaredFates target declaration
    rw [← same]
    exact ofOwn own bound
  | aliasType isExported offset parts =>
    cases parts with
    | nil => cases bound
    | cons first rest =>
      change name ∈ first.name?.toList ++ [] at bound
      rw [List.append_nil] at bound
      exact ⟨_, List.mem_map_of_mem bound⟩
  | statement own => exact ofOwn (.ofNode own shape) bound

theorem mem_knownNames (target : String → Identity) {items : List Node} {isType : Bool} :
    (name, isType) ∈ items.flatMap knownNames ↔
      ∃ fate, (name, fate) ∈ items.flatMap (fates target) ∧ fate.takenFor? = some isType := by
  have known : items.flatMap knownNames = (items.flatMap (fates target)).filterMap knownAs? := by
    rw [List.filterMap_flatMap]
    exact List.flatMap_congr fun n _ => (knownAs?_fates n).symm
  rw [known, List.mem_filterMap]
  constructor
  · rintro ⟨⟨text, fate⟩, entry, taken⟩
    obtain ⟨_, taken, same⟩ := Option.map_eq_some_iff.mp taken
    cases same
    exact ⟨fate, entry, taken⟩
  · rintro ⟨fate, entry, taken⟩
    exact ⟨_, entry, by rw [knownAs?, taken]; rfl⟩

theorem takenFor?_eq_true {fate : Fate} : fate.takenFor? = some true ↔ fate = .type := by
  cases fate <;> decide

theorem takenFor?_eq_false {fate : Fate} :
    fate.takenFor? = some false ↔ fate = .value ∨ fate = .hollow := by
  cases fate <;> decide

theorem survives_eq_true {fate : Fate} : fate.survives ↔ fate = .value ∨ fate = .hidden := by
  cases fate <;> decide

variable {entries : List (String × Fate)}

theorem survives_iff :
    Survives name entries ↔ (name, .value) ∈ entries ∨ (name, .hidden) ∈ entries := by
  simp [Survives, survives_eq_true, and_or_left, exists_or]

/-- The names that are left out are those that are taken for types and never for values. -/
theorem mem_typeOnlyNames {items : List Node} (target : String → Identity) :
    name ∈ typeOnlyNames items ↔ (name, .type) ∈ items.flatMap (fates target) ∧
      (name, .value) ∉ items.flatMap (fates target) ∧
      (name, .hollow) ∉ items.flatMap (fates target) := by
  have known : name ∈ typeOnlyNames items ↔
      (name, true) ∈ items.flatMap knownNames ∧ (name, false) ∉ items.flatMap knownNames := by
    simp [typeOnlyNames]
  rw [known, mem_knownNames target, mem_knownNames target]
  simp only [takenFor?_eq_true, takenFor?_eq_false, exists_eq_right, and_or_left, exists_or, not_or]

/-- A name is lost if it is taken for a type and values have it only where they are not looked for. -/
def Lost (entries : List (String × Fate)) (name : String) : Prop :=
  (name, .type) ∈ entries ∧ (name, .hidden) ∈ entries ∧
    (name, .value) ∉ entries ∧ (name, .hollow) ∉ entries

/-- A name is made up if no value has it, but it is taken for one or not looked for at all. -/
def MadeUp (entries : List (String × Fate)) (name : String) : Prop :=
  ((name, .hollow) ∈ entries ∨ (name, .stray) ∈ entries ∧ (name, .type) ∉ entries) ∧
    (name, .value) ∉ entries ∧ (name, .hidden) ∉ entries

instance (entries : List (String × Fate)) (name : String) : Decidable (Lost entries name) :=
  inferInstanceAs (Decidable (_ ∧ _))

instance (entries : List (String × Fate)) (name : String) : Decidable (MadeUp entries name) :=
  inferInstanceAs (Decidable (_ ∧ _))

/-- A name that is bound is exported without a value if it is made up. -/
theorem madeUp_iff {items : List Node} {fate : Fate}
    (bound : (name, fate) ∈ items.flatMap (fates target)) :
    name ∉ typeOnlyNames items ∧ ¬Survives name (items.flatMap (fates target)) ↔
      MadeUp (items.flatMap (fates target)) name := by
  rw [mem_typeOnlyNames target, survives_iff, MadeUp]
  cases fate <;> tauto

/-- A name that has a value is left out if it is lost. -/
theorem lost_iff {items : List Node} :
    name ∈ typeOnlyNames items ∧ Survives name (items.flatMap (fates target)) ↔
      Lost (items.flatMap (fates target)) name := by
  rw [mem_typeOnlyNames target, survives_iff, Lost]
  tauto

end bound

end ScriptBundle.Rewriting
