import ScriptBundle.Proofs.Script.MemberTraits
import ScriptBundle.Proofs.Script.PropertyTraits
import ScriptBundle.Script.Lowering

/-! A plain script is made without new traits. What is written for enumerations, namespaces and declared
properties has none; what is moved there, such as the value of a member or of a field, has no more of
them in its new place. -/
namespace ScriptBundle.Script

open Node (Lacks AllLack allLack_nil allLack_cons allLack_append lacks_neutral lacks_single lacks_pair
  lacks_cons)

variable {t : Trait}

/-- Whether a trait is missing in the name of a namespace, if there is one. -/
def SpaceLacks (t : Trait) (space : Option Symbol) : Prop :=
  ∀ name ∈ space, Lacks t (Node.ofSymbol name)

theorem spaceLacks_none : SpaceLacks t none := fun _ known => nomatch known

theorem SpaceLacks.some {name : Symbol} (lacks : Lacks t (Node.ofSymbol name)) :
    SpaceLacks t (some name) := fun _ known => Option.some.inj known ▸ lacks

namespace Node

theorem spaceLacks_symbol? {n : Node} (lacks : Lacks t n) : SpaceLacks t n.symbol? :=
  fun _ known => lacks.ofSymbol known

/-- The names that a pattern binds have only traits of the pattern. -/
theorem boundSymbols_lacks :
    (∀ n, Lacks t n → ∀ name ∈ n.boundSymbols, Lacks t (ofSymbol name)) ∧
    ∀ ns, AllLack t ns → ∀ name ∈ boundSymbolsOfAll ns, Lacks t (ofSymbol name) := by
  apply boundSymbols.mutual_induct
  case case1 =>
    intro name mark offset parts lacks
    rw [boundSymbols]
    exact List.forall_mem_singleton.mpr (lacks.with (fun _ => allLack_nil) fun _ => rfl)
  case case2 => exact fun _ _ _ ih lacks => ih ((lacks_pair rfl).mp lacks).2
  case case3 | case4 | case5 => exact fun _ _ _ ih lacks => ih ((lacks_cons rfl).mp lacks).1
  case case6 => exact fun _ _ _ _ ih lacks => ih ((lacks_pair rfl).mp lacks).2
  case case16 =>
    intro kind offset parts
    intros
    rename_i bound
    unfold boundSymbols at bound
    split at bound <;> simp_all
  case case17 => exact fun _ _ member => nomatch member
  case case18 =>
    intro n rest ihFirst ihRest lack
    rw [allLack_cons] at lack
    rw [boundSymbolsOfAll]
    exact List.forall_mem_append.mpr ⟨ihFirst lack.1, ihRest lack.2⟩
  all_goals
    intros
    rename_i ih lacks name bound
    exact ih (lacks.inside (Bool.or_true _)) name bound

theorem exportedByDeclaration_lacks {n : Node} (lacks : Lacks t n) :
    ∀ name ∈ n.exportedByDeclaration, Lacks t (ofSymbol name) := by
  unfold exportedByDeclaration
  split
  · exact boundSymbols_lacks.2 _ ((lacks_neutral rfl).mp lacks)
  · exact fun name known => ((lacks_cons rfl).mp lacks).1.ofSymbol (Option.mem_toList.mp known)
  · exact fun name known => ((lacks_cons rfl).mp lacks).1.ofSymbol (Option.mem_toList.mp known)
  · exact fun _ known => nomatch known

/-- The exported names in a tree and the namespaces that export them have only traits of the tree. -/
theorem exportedSymbols_lacks (deep : t.isDeep = true) :
    (∀ space n, SpaceLacks t space → Lacks t n →
      ∀ entry ∈ exportedSymbols space n, Lacks t (ofSymbol entry.1) ∧ SpaceLacks t entry.2) ∧
    ∀ space ns, SpaceLacks t space → AllLack t ns →
      ∀ entry ∈ exportedSymbolsOfAll space ns,
        Lacks t (ofSymbol entry.1) ∧ SpaceLacks t entry.2 := by
  have named {space : Option Symbol} (own : SpaceLacks t space) {symbols : List Symbol}
      (each : ∀ name ∈ symbols, Lacks t (ofSymbol name)) :
      ∀ entry ∈ symbols.map (·, space), Lacks t (ofSymbol entry.1) ∧ SpaceLacks t entry.2 :=
    List.forall_mem_map.mpr fun name member => ⟨each name member, own⟩
  have single {n : Node} (lacks : Lacks t n) :
      ∀ name ∈ n.symbol?.toList, Lacks t (ofSymbol name) :=
    fun _ known => lacks.ofSymbol (Option.mem_toList.mp known)
  apply exportedSymbols.mutual_induct
  case case1 =>
    intro space offset inner ih own lacks
    rw [lacks_single rfl] at lacks
    rw [exportedSymbols]
    exact List.forall_mem_append.mpr ⟨ih own lacks, named own (exportedByDeclaration_lacks lacks)⟩
  case case2 =>
    intro space isDeclared isGlobal offset name body ih own lacks
    rw [lacks_pair rfl] at lacks
    rw [exportedSymbols]
    exact ih (spaceLacks_symbol? lacks.1) lacks.2
  case case3 =>
    intro space offset inner ih own lacks
    rw [lacks_single rfl] at lacks
    rw [exportedSymbols]
    exact List.forall_mem_append.mpr ⟨ih own lacks, named own (single lacks)⟩
  case case4 =>
    intro space isTypeOnly offset name rest own lacks
    rw [exportedSymbols]
    exact named own (single ((lacks_cons rfl).mp lacks).1)
  case case5 =>
    intro space kind offset parts _ _ _ _ ih own lacks
    rw [exportedSymbols]
    · exact ih own (lacks.inside (Trait.enters_all deep kind))
    all_goals assumption
  case case6 =>
    intro space own lack
    simp [exportedSymbolsOfAll]
  case case7 =>
    intro space n rest ihFirst ihRest own lack
    rw [allLack_cons] at lack
    rw [exportedSymbolsOfAll]
    exact List.forall_mem_append.mpr ⟨ihFirst own lack.1, ihRest own lack.2⟩

theorem ownSymbol?_lacks {n : Node} {name : Symbol} (lacks : Lacks t n)
    (known : n.ownSymbol? = some name) : Lacks t (ofSymbol name) := by
  fun_induction ownSymbol? n with
  | case1 | case2 | case3 | case4 => exact ((lacks_cons rfl).mp lacks).1.ofSymbol known
  | case5 | case6 =>
    rename_i ih
    exact ih ((lacks_single rfl).mp lacks) known
  | case7 => cases known

theorem filled?_lacks {n : Node} {found : Symbol × Bool} (lacks : Lacks t n)
    (known : n.filled? = some found) : Lacks t (ofSymbol found.1) := by
  fun_induction filled? n generalizing found with
  | case1 | case2 =>
    obtain ⟨name, symbol, rfl⟩ := Option.map_eq_some_iff.mp known
    exact ((lacks_cons rfl).mp lacks).1.ofSymbol symbol
  | case3 offset inner ih =>
    obtain ⟨⟨name, isExported⟩, filled, rfl⟩ := Option.map_eq_some_iff.mp known
    have own := ih ((lacks_single rfl).mp lacks) filled
    exact own
  | case4 => cases known

end Node

/-- Whether a trait is missing in what is known of a module: in the values of the members of enumerations,
if functions count, in exported names and in the names of namespaces. -/
structure Knowledge.Lacks (t : Trait) (k : Knowledge) : Prop where
  members (deep : t.isDeep = true) : k.enumerations.Lacks t
  exports : ∀ entry ∈ k.exported, Node.Lacks t (Node.ofSymbol entry.1) ∧ SpaceLacks t entry.2

theorem Knowledge.Lacks.exportedAs? {k : Knowledge} (lack : k.Lacks t) {name : Symbol} {place : Node}
    (exported : k.exportedAs? name = some place) :
    Node.Lacks t (Node.ofSymbol name) ∧ Node.Lacks t place := by
  unfold Knowledge.exportedAs? at exported
  split at exported
  next space known =>
    cases exported
    obtain ⟨before, after, entries, -⟩ := List.lookup_eq_some_iff.mp known
    obtain ⟨own, around⟩ := lack.exports (name, some space) (by simp [entries])
    exact ⟨own, (Node.lacks_access name.1).mpr (around _ rfl)⟩
  · cases exported

/-- Whether a trait is missing in what lowering has to know of an item, maybe not in the item. -/
structure Node.KnownLacks (t : Trait) (n : Node) : Prop where
  members (known : Enumerations) (before : known.Lacks t) : (Enumerations.collect known n).Lacks t
  exports : ∀ entry ∈ n.exportedSymbols none, Lacks t (ofSymbol entry.1) ∧ SpaceLacks t entry.2

namespace Node

variable {n : Node}

theorem Lacks.known (deep : t.isDeep = true) (lacks : Lacks t n) : n.KnownLacks t where
  members known before := (Enumerations.collect_lacks deep).1 known n before lacks
  exports := (exportedSymbols_lacks deep).1 none n spaceLacks_none lacks

variable {items : List Node}

theorem collectAll_lacks (each : ∀ n ∈ items, n.KnownLacks t) (known : Enumerations)
    (before : known.Lacks t) : (Enumerations.collectAll known items).Lacks t := by
  induction items generalizing known with
  | nil => exact before
  | cons n rest ih =>
    obtain ⟨first, others⟩ := List.forall_mem_cons.mp each
    exact ih others _ (first.members known before)

theorem exportedSymbolsOfAll_lacks (each : ∀ n ∈ items, n.KnownLacks t) :
    ∀ entry ∈ exportedSymbolsOfAll none items,
      Lacks t (ofSymbol entry.1) ∧ SpaceLacks t entry.2 := by
  induction items with
  | nil => exact fun _ member => nomatch member
  | cons n rest ih =>
    obtain ⟨first, others⟩ := List.forall_mem_cons.mp each
    exact List.forall_mem_append.mpr ⟨first.exports, ih others⟩

end Node

/-- What is known of the items of a module has only the traits of what is known of each item. -/
theorem Knowledge.lacks_ofKnown {items : List Node} (each : ∀ n ∈ items, n.KnownLacks t) :
    (Knowledge.ofItems items).Lacks t where
  members _ := Node.collectAll_lacks each ⟨[]⟩ fun _ member => nomatch member
  exports := Node.exportedSymbolsOfAll_lacks each

theorem Knowledge.lacks_ofItems {items : List Node} (each : AllLack t items) :
    (Knowledge.ofItems items).Lacks t := by
  cases depth : t.isDeep with
  | true => exact Knowledge.lacks_ofKnown fun n member => (each n member).known depth
  | false =>
    have named (name : Symbol) : Node.Lacks t (Node.ofSymbol name) :=
      Node.lacks_mk.mpr ⟨t.isKind_name depth .., fun _ => allLack_nil⟩
    exact ⟨fun deep => absurd (depth.symm.trans deep) Bool.false_ne_true,
      fun entry _ => ⟨named entry.1, fun name _ => named name⟩⟩

namespace Lowering

variable {k : Knowledge} {space : Option Symbol}

@[simp] theorem lacks_orNew {place : Node} : Lacks t (orNew place) ↔ Lacks t place := by
  rw [orNew, lacks_pair rfl]
  simp

theorem filledObject_lacks (around : SpaceLacks t space) (isExported : Bool) {name : Symbol}
    (own : Lacks t (Node.ofSymbol name)) : Lacks t (filledObject space isExported name) := by
  unfold filledObject
  split
  next outer =>
    exact Node.lacks_assign.mpr ⟨own, lacks_orNew.mpr ((Node.lacks_access _).mpr (around outer rfl))⟩
  next => exact lacks_orNew.mpr own

/-- What a function that fills an object does counts if functions count. -/
theorem fill_lacks {statements : List Node} {argument : Node} {name : Symbol}
    (own : Lacks t (Node.ofSymbol name))
    (each : t.isDeep = true → AllLack t statements) (lacks : Lacks t argument) :
    Lacks t (fill name statements argument) := by
  have parameters : Lacks t (.mk .parameters 0 [Node.ofSymbol name]) := (lacks_single rfl).mpr own
  have function : Lacks t (.mk (.function false false) 0
      [.mk .parameters 0 [Node.ofSymbol name], Node.block statements]) := by
    refine Node.lacks_mk.mpr ⟨t.isKind_function false false, fun inside => ?_⟩
    simpa using ⟨parameters, each (Trait.isDeep_of_enters rfl inside)⟩
  rw [fill, Node.lacks_statement, Node.lacks_call, lacks_pair rfl]
  simpa using ⟨function, lacks⟩

theorem makeMember_lacks {value : MemberValue} {enum : Symbol} (own : Lacks t (Node.ofSymbol enum))
    (lacks : Lacks t value.node) (member : String) : Lacks t (makeMember enum member value) := by
  have entry {key : Node} (lacks : Lacks t key) :
      Lacks t (.mk (.index false) 0 [Node.ofSymbol enum, key]) :=
    (lacks_pair rfl).mpr ⟨own, lacks⟩
  have set := Node.lacks_assign.mpr ⟨entry (Node.lacks_text member), lacks⟩
  unfold makeMember
  dsimp only
  rw [Node.lacks_statement]
  split
  · exact set
  · exact Node.lacks_assign.mpr ⟨entry set, Node.lacks_text member⟩

theorem enumeration_lacks (lack : k.Lacks t) (around : SpaceLacks t space) (isExported : Bool)
    {enum : Symbol} (own : Lacks t (Node.ofSymbol enum)) (members : List Node) :
    AllLack t (enumeration k space isExported enum members) := by
  unfold enumeration
  dsimp only
  split
  · exact allLack_nil
  · have object := filledObject_lacks around isExported own
    refine allLack_cons.mpr ⟨fill_lacks own (fun deep => ?_) object, allLack_nil⟩
    refine List.forall_mem_map.mpr fun (name, value) written => makeMember_lacks own ?_ _
    obtain ⟨member, -, valued⟩ := List.mem_map.mp (List.mem_filter.mp written).1
    cases valued
    cases found : k.enumerations.find? enum member.enumeratorName with
    | none => exact MemberValue.lacks_missing
    | some value => exact (lack.members deep).find? found

/-- The variable for an enumeration or a namespace has nothing but its name. -/
theorem declareFirst_lacks (before : List Node) {n : Node} (lacks : Lacks t n) :
    AllLack t (declareFirst space before n) := by
  unfold declareFirst
  split
  next => exact allLack_nil
  next name isExported filled =>
    have own : Lacks t (Node.ofSymbol name) := Node.filled?_lacks lacks filled
    split
    · exact allLack_nil
    · dsimp only
      split
      · refine allLack_cons.mpr ⟨(lacks_single rfl).mpr ?_, allLack_nil⟩
        simpa using own
      · simpa using own

theorem aliasTarget_lacks {n : Node} (lacks : Lacks t n) : Lacks t (aliasTarget n) := by
  unfold aliasTarget
  split
  · rw [lacks_single rfl] at lacks
    simpa using lacks
  · exact lacks

theorem exportInto_lacks {outer : Symbol} (around : Lacks t (Node.ofSymbol outer)) {ns : List Node}
    (lack : AllLack t ns) : AllLack t (exportInto outer ns) := by
  unfold exportInto
  split
  next binding isDeclared offset declarators rest =>
    rw [allLack_cons, lacks_neutral rfl] at lack
    refine allLack_append.mpr ⟨?_, lack.2⟩
    split
    · exact allLack_nil
    · refine allLack_cons.mpr ⟨Node.lacks_statement.mpr (Node.lacks_sequenceOf ?_), allLack_nil⟩
      intro assignment member
      obtain ⟨declarator, present, assigned⟩ := List.mem_filterMap.mp member
      split at assigned
      next place pattern value =>
        have parts := lack.1 _ present
        split at assigned
        · cases assigned
        · cases assigned
          exact Node.lacks_assign.mpr ((lacks_pair rfl).mp parts)
      next => cases assigned
  next declaration rest _ =>
    split
    next name known =>
      have own := Node.ownSymbol?_lacks (allLack_cons.mp lack).1 known
      simpa [around, own] using lack
    next => exact lack
  next => exact allLack_nil

theorem lower_shorthand_lacks (lack : k.Lacks t) {name value : Node} (lacks : Lacks t name)
    (each : AllLack t (lower k space value)) (offset : Nat) :
    AllLack t (lower k space (.mk .shorthand offset [name, value])) := by
  have head : Lacks t ((lower k space value).headD .absent) := by
    cases made : lower k space value with
    | nil => exact Node.lacks_absent
    | cons n rest => exact (allLack_cons.mp (made ▸ each)).1
  rw [lower]
  dsimp only
  split
  next => exact allLack_cons.mpr ⟨(lacks_pair rfl).mpr ⟨lacks, head⟩, allLack_nil⟩
  next place exported =>
    obtain ⟨symbol, -, known⟩ := Option.bind_eq_some_iff.mp exported
    have whole := (lack.exportedAs? known).2
    have key : Lacks t (Node.word (name.name?.getD "")) := Node.lacks_word _
    split
    · exact allLack_cons.mpr ⟨(lacks_pair rfl).mpr ⟨key, whole⟩, allLack_nil⟩
    · have default : Lacks t (.mk .defaulted 0 [place, (lower k space value).headD .absent]) :=
        (lacks_pair rfl).mpr ⟨whole, head⟩
      exact allLack_cons.mpr ⟨(lacks_pair rfl).mpr ⟨key, default⟩, allLack_nil⟩

/-- An exported alias is a constant with its target, or with what is exported for an external one. -/
theorem lower_exportedAlias_lacks {name target : Node} (named : Lacks t name) (lacks : Lacks t target)
    (isTypeOnly : Bool) (offset : Nat) :
    AllLack t (lower k none (.mk (.alias true isTypeOnly) offset [name, target])) := by
  have constant {value : Node} (lacks : Lacks t value) : Lacks t (Node.declaration .const name value) :=
    (Node.lacks_declaration .const).mpr ⟨named, lacks⟩
  obtain ⟨kind, place, parts⟩ := target
  by_cases external : kind = .external
  · subst external
    have stored := Node.lacks_assign.mpr
      ⟨(Node.lacks_access (name.name?.getD "")).mpr (Node.lacks_unresolved "exports"),
        aliasTarget_lacks lacks⟩
    rw [lower]
    exact allLack_cons.mpr ⟨constant stored, allLack_nil⟩
  · have own : ¬((Node.mk kind place parts).kind == .external) = true := by
      simpa [Node.kind] using external
    rw [lower, if_neg own]
    · exact allLack_cons.mpr ⟨(lacks_single rfl).mpr (constant lacks), allLack_nil⟩
    · intro _ _ same
      cases same
      exact external rfl

/-- The parameters and the body of a function stay what they are. -/
theorem lower_part {n : Node} (part : n.isFunctionPart) :
    (lower k none n).all Node.isFunctionPart := by
  obtain ⟨kind, offset, parts⟩ := n
  cases kind with
  | block =>
    rw [lower]
    rfl
  | parameters | types => rw [lower] <;> first | rfl | simp
  | _ => cases part

theorem lowerAll_whole {ns : List Node} (whole : ns.all Node.isFunctionPart) :
    (lowerAll k ns).all Node.isFunctionPart := by
  induction ns with
  | nil => rfl
  | cons n rest ih =>
    rw [List.all_cons, Bool.and_eq_true] at whole
    rw [lowerAll, List.all_append, lower_part whole.1, ih whole.2]
    rfl

/-- What stands for a node has nothing new. -/
theorem lower_lacks (lack : k.Lacks t) :
    (∀ space n, SpaceLacks t space → Lacks t n → AllLack t (lower k space n)) ∧
    (∀ space before ns, SpaceLacks t space → AllLack t ns →
      AllLack t (lowerList k space before ns)) ∧
    (∀ space n, Lacks t (Node.ofSymbol space) → Lacks t n → AllLack t (lowerBody k space n)) ∧
    ∀ ns, AllLack t ns → AllLack t (lowerAll k ns) := by
  have one {n : Node} (lacks : Lacks t n) : AllLack t [n] := allLack_cons.mpr ⟨lacks, allLack_nil⟩
  apply lower.mutual_induct k
  case case1 =>
    intro space name mark offset parts _ lacks
    rw [lower]
    cases exported : k.exportedAs? (name, mark) with
    | none => exact one lacks
    | some place => exact one (lack.exportedAs? exported).2
  case case2 | case3 | case4 =>
    intros
    rename_i ih around lacks
    rw [lacks_pair rfl] at lacks
    exact lower_shorthand_lacks lack lacks.1 (ih around lacks.2) _
  case case5 | case6 =>
    intro space operator offset isOptional place parts value ihParts ih around lacks
    rw [lacks_pair rfl] at lacks
    rw [lower]
    exact one ((lacks_cons rfl).mpr ⟨lacks.1.within rfl ihParts, ih around lacks.2⟩)
  case case7 | case8 =>
    intro space operator isPrefix offset isOptional place parts ihParts _ lacks
    rw [lacks_cons rfl] at lacks
    rw [lower]
    exact one ((lacks_single rfl).mpr (lacks.1.within rfl ihParts))
  case case9 | case10 =>
    intro space isDeclared offset name inner ih _ lacks
    rw [lacks_pair rfl] at lacks
    rw [lower]
    exact one ((lacks_cons rfl).mpr ⟨lacks.1, ih spaceLacks_none lacks.2⟩)
  case case11 =>
    intro space isConst isDeclared offset name members enum symbol around lacks
    rw [lower]
    simp only [symbol]
    exact enumeration_lacks lack around _ (((lacks_cons rfl).mp lacks).1.ofSymbol symbol) _
  case case12 =>
    intro space isConst isDeclared offset name members symbol _ lacks
    rw [lower]
    simp only [symbol]
    exact allLack_nil
  case case13 =>
    intro space isDeclared isGlobal offset name body inner symbol ih around lacks
    rw [lacks_pair rfl] at lacks
    have own := lacks.1.ofSymbol symbol
    rw [lower]
    simp only [symbol]
    exact one (fill_lacks own (fun _ => ih own lacks.2) (filledObject_lacks around _ own))
  case case14 =>
    intro space isDeclared isGlobal offset name body symbol _ lacks
    rw [lower]
    simp only [symbol]
    exact allLack_nil
  case case15 =>
    intro space offset isConst isDeclared place name members enum symbol around lacks
    rw [lacks_single rfl, lacks_cons rfl] at lacks
    rw [lower]
    simp only [symbol]
    exact enumeration_lacks lack around _ (lacks.1.ofSymbol symbol) _
  case case16 =>
    intro space offset isConst isDeclared place name members symbol _ lacks
    rw [lower]
    simp only [symbol]
    exact allLack_nil
  case case17 =>
    intro space offset isDeclared isGlobal place name body inner symbol ih around lacks
    rw [lacks_single rfl, lacks_pair rfl] at lacks
    have own := lacks.1.ofSymbol symbol
    rw [lower]
    simp only [symbol]
    exact one (fill_lacks own (fun _ => ih own lacks.2) (filledObject_lacks around _ own))
  case case18 =>
    intro space offset isDeclared isGlobal place name body symbol _ lacks
    rw [lower]
    simp only [symbol]
    exact allLack_nil
  case case19 =>
    intro offset inner _ _ outer ih around lacks
    rw [lacks_cons rfl] at lacks
    rw [lower]
    · exact exportInto_lacks (around outer rfl) (ih around lacks.1)
    all_goals assumption
  case case20 =>
    intro offset inner _ _ ih around lacks
    rw [lacks_cons rfl] at lacks
    rw [lower]
    · exact one ((lacks_neutral rfl).mpr (ih around lacks.1))
    all_goals assumption
  case case21 =>
    intro isTypeOnly offset name target outer around lacks
    rw [lacks_pair rfl] at lacks
    rw [lower]
    simpa using ⟨around outer rfl, lacks.2⟩
  case case22 =>
    intro isTypeOnly offset name target _ lacks
    rw [lacks_pair rfl] at lacks
    exact lower_exportedAlias_lacks lacks.1 lacks.2 _ _
  case case23 =>
    intro space isTypeOnly offset name target _ lacks
    rw [lacks_pair rfl] at lacks
    rw [lower]
    exact one ((Node.lacks_declaration .const).mpr ⟨lacks.1, aliasTarget_lacks lacks.2⟩)
  case case24 =>
    intro space offset statements ih _ lacks
    rw [lower]
    exact one (lacks.within rfl (ih spaceLacks_none))
  case case25 =>
    intro space offset test statements ihTest ih _ lacks
    rw [lacks_cons rfl] at lacks
    rw [lower]
    exact one ((lacks_neutral rfl).mpr (allLack_append.mpr
      ⟨ihTest spaceLacks_none lacks.1, ih spaceLacks_none lacks.2⟩))
  case case26 =>
    intro space offset base ms ihBase ih _ lacks
    rw [lacks_cons rfl] at lacks
    rw [lower]
    exact one ((lacks_neutral rfl).mpr (allLack_append.mpr
      ⟨ihBase spaceLacks_none lacks.1, ParameterProperties.members_lacks (ih lacks.2)⟩))
  case case27 =>
    intro space kind offset parts
    intros
    rename_i value constant _ lacks
    rw [lower]
    · split
      next value known =>
        obtain ⟨⟨enum, key⟩, -, known⟩ := Option.bind_eq_some_iff.mp known
        exact one (Enumerations.lacks_constant? known)
      next open_ => cases constant.symm.trans open_
    all_goals assumption
  case case28 =>
    intro space kind offset parts
    intros
    rename_i open_ ih _ lacks
    rw [lower]
    · split
      next constant => cases constant.symm.trans open_
      next => exact one (lacks.with ih lowerAll_whole)
    all_goals assumption
  case case29 =>
    intro space offset items ih around lacks
    rw [lacks_neutral rfl] at lacks
    rw [lowerBody]
    exact ih (.some around) lacks
  case case30 =>
    intro space isDeclared isGlobal offset name body inner symbol ih around lacks
    rw [lacks_pair rfl] at lacks
    have own := lacks.1.ofSymbol symbol
    rw [lowerBody]
    simp only [symbol]
    exact one (fill_lacks own (fun _ => ih own lacks.2)
      (lacks_orNew.mpr ((Node.lacks_access _).mpr around)))
  case case31 =>
    intro space isDeclared isGlobal offset name body symbol _ lacks
    rw [lowerBody]
    simp only [symbol]
    exact allLack_nil
  case case32 =>
    intro n space _ _ _ lacks
    rw [lowerBody]
    · exact allLack_nil
    all_goals assumption
  case case33 => exact fun _ _ _ _ => allLack_nil
  case case34 =>
    intro space before n rest ihFirst ihRest around lack
    rw [allLack_cons] at lack
    rw [lowerList]
    exact allLack_append.mpr ⟨allLack_append.mpr
      ⟨declareFirst_lacks before lack.1, ihFirst around lack.1⟩, ihRest around lack.2⟩
  case case35 => exact fun _ => allLack_nil
  case case36 =>
    intro n rest ihFirst ihRest lack
    rw [allLack_cons] at lack
    rw [lowerAll]
    exact allLack_append.mpr ⟨ihFirst spaceLacks_none lack.1, ihRest lack.2⟩

theorem lowerItems_lacks {items : List Node} (each : AllLack t items) :
    AllLack t (lowerItems items) := by
  have lowered := (lower_lacks (Knowledge.lacks_ofItems each)).2.1 none [] items spaceLacks_none each
  refine allLack_append.mpr ⟨lowered.filter _, fun n member => ?_⟩
  obtain ⟨assignment, found, rfl⟩ := Option.map_eq_some_iff.mp (Option.mem_toList.mp member)
  obtain ⟨kind, offset, parts⟩ := assignment
  obtain rfl : kind = .exportAssignment := by simpa [Node.kind] using List.find?_some found
  have inside := lowered _ (List.mem_of_find?_eq_some found)
  rw [lacks_neutral rfl] at inside
  simp only [Node.lacks_statement, Node.lacks_assign, Node.lacks_access, Node.lacks_unresolved,
    true_and]
  cases parts with
  | nil => exact Node.lacks_absent
  | cons value rest => exact (allLack_cons.mp inside).1

end Lowering

end ScriptBundle.Script
