import ScriptBundle.Proofs.Script.Traits
import ScriptBundle.Script.ParameterProperties

/-! Properties that the parameters of a constructor declare. What is assigned to them, and the values of
fields, which move into the constructor, have no more traits in their new place. -/
namespace ScriptBundle.Script

open Node (Lacks AllLack allLack_nil allLack_cons allLack_append lacks_neutral lacks_single lacks_pair
  lacks_cons)

variable {t : Trait}

namespace ParameterProperties

theorem kind_afterBase {added : List Node} {isUnused : Bool} {n : Node} (part : n.isFunctionPart) :
    (afterBase added isUnused n).kind = n.kind := by
  unfold afterBase
  split
  case h_1 => cases part
  case h_5 => split <;> rfl
  all_goals rfl

theorem allAfterBase_whole {added : List Node} {isUnused : Bool} {ns : List Node}
    (whole : ns.all Node.isFunctionPart) :
    (allAfterBase added isUnused ns).all Node.isFunctionPart := by
  induction ns with
  | nil => rfl
  | cons n rest ih =>
    rw [List.all_cons, Bool.and_eq_true] at whole
    rw [allAfterBase, List.all_cons, ih whole.2, Node.isFunctionPart, kind_afterBase whole.1]
    exact (Bool.and_true _).trans whole.1

/-- Expressions that follow a call of the constructor of the base class have nothing new. -/
theorem afterBase_lacks {added : List Node} (more : AllLack t added) :
    (∀ isUnused n, Lacks t n → Lacks t (afterBase added isUnused n)) ∧
    (∀ isUnused ns, AllLack t ns → AllLack t (sequenceAfterBase added isUnused ns)) ∧
    ∀ isUnused ns, AllLack t ns → AllLack t (allAfterBase added isUnused ns) := by
  have call {isOptional : Bool} {offset : Nat} {base : Node} {arguments arguments' : List Node}
      (lacks : Lacks t (.mk (.call isOptional) offset (base :: arguments)))
      (each : AllLack t arguments → AllLack t arguments') :
      AllLack t (.mk (.call isOptional) offset (base :: arguments') :: added) :=
    allLack_cons.mpr ⟨lacks.within rfl (by simpa using fun first rest => ⟨first, each rest⟩), more⟩
  have single {n n' : Node} (each : Lacks t n → Lacks t n') : AllLack t [n] → AllLack t [n'] := by
    simpa using each
  apply afterBase.mutual_induct added
  case case1 =>
    intro isOptional offset place inner arguments ih lacks
    rw [afterBase, if_pos rfl]
    exact (lacks_neutral rfl).mpr (call lacks ih)
  case case2 =>
    intro isUnused isOptional offset place inner arguments used ih lacks
    rw [afterBase, if_neg used, lacks_pair rfl, lacks_neutral rfl]
    exact ⟨call lacks ih, Node.lacks_leaf rfl⟩
  case case3 | case4 =>
    intro isUnused offset inner ih lacks
    rw [afterBase]
    exact lacks.within rfl (single ih)
  case case5 =>
    intro isUnused offset parts ih lacks
    rw [afterBase]
    exact lacks.within rfl ih
  case case6 =>
    intro isUnused offset parts isAsync isGenerator _ _ _ _ lacks
    rw [afterBase]
    exact lacks
  case case7 | case8 =>
    intro isUnused offset parts _ _ _ _ lacks
    rw [afterBase]
    exact lacks
  case case9 =>
    intro isUnused kind offset parts _ _ _ _ _ _ _ ih lacks
    rw [afterBase]
    · exact lacks.with ih allAfterBase_whole
    all_goals assumption
  case case10 | case13 => exact fun _ => id
  case case11 =>
    intro isUnused last ih lack
    exact single ih lack
  case case12 =>
    intro isUnused n rest more ihFirst ihRest lack
    rw [allLack_cons] at lack
    rw [sequenceAfterBase, allLack_cons]
    · exact ⟨ihFirst lack.1, ihRest lack.2⟩
    all_goals assumption
  case case14 =>
    intro isUnused n rest ihFirst ihRest lack
    rw [allLack_cons] at lack
    rw [allAfterBase, allLack_cons]
    exact ⟨ihFirst lack.1, ihRest lack.2⟩

theorem initialised_lacks {added statements : List Node} (more : AllLack t added)
    (lack : AllLack t statements) : AllLack t (initialised added statements) := by
  unfold initialised
  split
  · exact (afterBase_lacks more).2.2 true statements lack
  · refine allLack_append.mpr ⟨?_, lack⟩
    exact List.forall_mem_map.mpr fun n member => Node.lacks_statement.mpr (more n member)

theorem ownProperty_lacks {key : Node} (lacks : Lacks t key) : Lacks t (ownProperty key) := by
  have this : Lacks t (.leaf .this) := Node.lacks_leaf rfl
  unfold ownProperty
  split
  case h_3 => exact (lacks_pair rfl).mpr ⟨this, (lacks_single rfl).mp lacks⟩
  all_goals exact (lacks_pair rfl).mpr ⟨this, lacks⟩

theorem propertyPattern?_lacks {p pattern : Node} (declared : propertyPattern? p = some pattern)
    (lacks : Lacks t p) : Lacks t pattern := by
  unfold propertyPattern? at declared
  split at declared
  · cases declared
    exact (lacks_single rfl).mp lacks
  · cases declared

theorem parameterName_lacks {pattern : Node} (lacks : Lacks t pattern) :
    Lacks t (parameterName pattern) := by
  unfold parameterName
  split
  · exact ((lacks_cons rfl).mp lacks).1
  · exact lacks

theorem plainParameters_whole {parameters : List Node} (whole : parameters.all Node.isFunctionPart) :
    (parameters.map fun p => (propertyPattern? p).getD p).all Node.isFunctionPart := by
  rw [List.all_map]
  refine List.all_eq_true.mpr fun p member => ?_
  have part := List.all_eq_true.mp whole p member
  have plain : propertyPattern? p = none := by
    unfold propertyPattern?
    split
    · cases part
    · rfl
  simpa [plain] using part

/-- A constructor counts with what it assigns if functions count. -/
theorem plainConstructor_lacks {added : List Node}
    (more : t.isDeep = true → AllLack t added) {n : Node} (lacks : Lacks t n) :
    Lacks t (plainConstructor added n) := by
  unfold plainConstructor
  split
  next offset key kind place parameters inner statements =>
    have own := (Node.lacks_mk.mp lacks).1
    refine Node.lacks_mk.mpr ⟨own, fun inside => ?_⟩
    have lack := lacks.inside inside
    simp only [allLack_cons, allLack_nil, and_true] at lack ⊢
    refine ⟨lack.1, lack.2.1.with (fun each => ?_) plainParameters_whole,
      lack.2.2.within rfl (initialised_lacks (more (Trait.isDeep_of_enters rfl inside)))⟩
    refine List.forall_mem_map.mpr fun p member => ?_
    cases declared : propertyPattern? p with
    | none => exact each p member
    | some pattern => exact propertyPattern?_lacks declared (each p member)
  next => exact lacks

theorem withoutValue_lacks {n : Node} (lacks : Lacks t n) : Lacks t (withoutValue n) := by
  unfold withoutValue
  split
  · split
    · exact lacks
    · exact (lacks_pair rfl).mpr ⟨((lacks_pair rfl).mp lacks).1, Node.lacks_absent⟩
  · exact lacks

theorem fieldValue?_lacks {n value : Node} (lacks : Lacks t n) (assigned : fieldValue? n = some value) :
    Lacks t value := by
  unfold fieldValue? at assigned
  split at assigned
  · split at assigned
    · cases assigned
    · rw [lacks_pair rfl] at lacks
      cases assigned
      exact Node.lacks_assign.mpr ⟨ownProperty_lacks lacks.1, lacks.2⟩
  · cases assigned

/-- The parameters of a constructor count if functions count. -/
theorem propertyNames_lacks (deep : t.isDeep = true) {ms : List Node}
    (lack : AllLack t ms) : AllLack t (propertyNames ms) := by
  intro name member
  obtain ⟨n, present, inner⟩ := List.mem_flatMap.mp member
  split at inner
  next offset key parameters body =>
    obtain ⟨p, parameter, named⟩ := List.mem_filterMap.mp inner
    obtain ⟨pattern, declared, rfl⟩ := Option.map_eq_some_iff.mp named
    have parts := (lack _ present).inside (Trait.enters_all deep _)
    simp only [allLack_cons] at parts
    have whole : Lacks t p := by
      obtain ⟨kind, place, ps⟩ := parameters
      exact parts.2.1.inside (Trait.enters_all deep kind) p parameter
    exact parameterName_lacks (propertyPattern?_lacks declared whole)
  next => cases inner

theorem members_lacks {ms : List Node} (lack : AllLack t ms) : AllLack t (members ms) := by
  have more (deep : t.isDeep = true) :
      AllLack t ((propertyNames ms).map storeParameter ++ ms.filterMap fieldValue?) := by
    refine allLack_append.mpr ⟨List.forall_mem_map.mpr fun name member => ?_, fun value member => ?_⟩
    · exact Node.lacks_assign.mpr ⟨ownProperty_lacks (Node.lacks_word _),
        propertyNames_lacks deep lack name member⟩
    · obtain ⟨n, present, assigned⟩ := List.mem_filterMap.mp member
      exact fieldValue?_lacks (lack n present) assigned
  unfold members
  dsimp only
  split
  · exact lack
  · refine allLack_append.mpr ⟨List.forall_mem_map.mpr fun name _ => ?_, ?_⟩
    · exact (lacks_pair rfl).mpr ⟨Node.lacks_word _, Node.lacks_absent⟩
    exact List.forall_mem_map.mpr fun n member =>
      plainConstructor_lacks more (withoutValue_lacks (lack n member))

end ParameterProperties

end ScriptBundle.Script
