import ScriptBundle.Proofs.Script.LoweredTraits
import ScriptBundle.Proofs.Script.Survivors

/-! Traits when types are gone. Erasing types takes nodes out of a tree and adds none, and what is left of a
function is no less whole than it was. So a script has only traits that the module has. -/
namespace ScriptBundle.Script

namespace Node

variable {t : Trait}

theorem kind_withoutTypes_of_ne {n : Node} (other : n.kind ≠ .cast) :
    n.withoutTypes.kind = n.kind := by
  unfold withoutTypes
  split
  · exact absurd rfl other
  all_goals rfl

theorem ne_cast_of_part {n : Node} (part : n.isFunctionPart) : n.kind ≠ .cast := by
  rintro cast
  rw [isFunctionPart, cast] at part
  cases part

theorem allWithoutTypes_whole {ns : List Node} (whole : ns.all isFunctionPart) :
    (allWithoutTypes ns).all isFunctionPart := by
  induction ns with
  | nil => rfl
  | cons n rest ih =>
    rw [List.all_cons, Bool.and_eq_true] at whole
    rw [allWithoutTypes]
    split_ifs
    · exact ih whole.2
    · rw [List.all_cons, ih whole.2, isFunctionPart,
        kind_withoutTypes_of_ne (ne_cast_of_part whole.1)]
      exact (Bool.and_true _).trans whole.1

/-- Erasing types adds no trait. -/
theorem withoutTypes_lacks : (∀ n : Node, Lacks t n → Lacks t n.withoutTypes) ∧
    (∀ ns, AllLack t ns → AllLack t (allWithoutTypes ns)) ∧
    ∀ ns, AllLack t ns → AllLack t (keptWithoutTypes ns) := by
  apply withoutTypes.mutual_induct
  case case1 =>
    intro offset inner types ih lacks
    rw [withoutTypes]
    exact ih ((lacks_cons rfl).mp lacks).1
  case case2 | case3 =>
    intro offset statements ih lacks
    rw [withoutTypes]
    exact lacks.within rfl ih
  case case4 | case5 =>
    intro offset first rest ihFirst ihRest lacks
    rw [withoutTypes]
    refine lacks.within rfl fun lack => ?_
    rw [allLack_cons] at lack ⊢
    exact ⟨ihFirst lack.1, ihRest lack.2⟩
  case case6 =>
    intro kind offset parts _ _ _ _ _ ih lacks
    rw [withoutTypes]
    · exact lacks.with ih allWithoutTypes_whole
    all_goals assumption
  case case7 | case10 => exact id
  case case8 =>
    intro n rest typed ihRest lack
    rw [allWithoutTypes, if_pos typed]
    exact ihRest (allLack_cons.mp lack).2
  case case9 =>
    intro n rest untyped ihFirst ihRest lack
    rw [allLack_cons] at lack
    rw [allWithoutTypes, if_neg untyped, allLack_cons]
    exact ⟨ihFirst lack.1, ihRest lack.2⟩
  case case11 =>
    intro n rest kept ihFirst ihRest lack
    rw [allLack_cons] at lack
    rw [keptWithoutTypes, if_pos kept, allLack_cons]
    exact ⟨ihFirst lack.1, ihRest lack.2⟩
  case case12 =>
    intro n rest dropped ihRest lack
    rw [keptWithoutTypes, if_neg dropped]
    exact ihRest (allLack_cons.mp lack).2

/-- What is kept of an item has what the item has. -/
theorem keep?_lacks {usage : Usage} {n n' : Node} (kept : usage.keep? n = some n')
    (lacks : Lacks t n) : Lacks t n' := by
  have named {kind : Kind} (neutral : kind.isNeutral = true) {offset : Nat}
      {source attributes : Node} {names : List Node} {p : Node → Bool}
      (lacks : Lacks t (mk kind offset (source :: attributes :: names))) :
      Lacks t (mk kind offset (source :: attributes :: names.filter p)) := by
    refine lacks.within neutral fun lack => ?_
    simp only [allLack_cons] at lack ⊢
    exact ⟨lack.1, lack.2.1, lack.2.2.filter p⟩
  unfold Usage.keep? at kept
  split at kept
  case h_6 =>
    cases kept
    exact lacks
  case h_1 | h_2 =>
    obtain ⟨-, kept⟩ := Option.ite_none_left_eq_some.mp kept
    cases kept
    exact named rfl lacks
  all_goals
    obtain ⟨-, kept⟩ := Option.ite_none_left_eq_some.mp kept
    cases kept
    exact lacks

theorem withoutTypeAliases_lacks : (∀ n : Node, Lacks t n → Lacks t n.withoutTypeAliases) ∧
    ∀ usage ns, AllLack t ns → AllLack t (withoutTypeAliasesOfAll usage ns) := by
  apply withoutTypeAliases.mutual_induct
  case case1 =>
    intro offset items usage ih lacks
    rw [withoutTypeAliases]
    exact lacks.within rfl ih
  case case2 =>
    intro isDeclared isGlobal offset name body ih lacks
    rw [withoutTypeAliases]
    refine lacks.within rfl fun lack => ?_
    simp only [allLack_cons] at lack ⊢
    exact ⟨lack.1, ih lack.2.1, lack.2.2⟩
  case case3 =>
    intro offset inner ih lacks
    rw [withoutTypeAliases]
    refine lacks.within rfl fun lack => ?_
    simp only [allLack_cons] at lack ⊢
    exact ⟨ih lack.1, lack.2⟩
  case case4 =>
    intro n _ _ _ lacks
    rw [withoutTypeAliases]
    · exact lacks
    all_goals assumption
  case case5 => exact fun _ => id
  case case6 =>
    intro usage n rest isExported isTypeOnly aliased ihRest ihFirst lack
    rw [allLack_cons] at lack
    rw [withoutTypeAliasesOfAll]
    simp only [aliased, allLack_append]
    refine ⟨fun n' member => ?_, ihRest lack.2⟩
    exact keep?_lacks (by simpa using member) (ihFirst lack.1)
  case case7 =>
    intro usage n rest other ihRest ihFirst lack
    rw [allLack_cons] at lack
    rw [withoutTypeAliasesOfAll]
    split
    next known => exact (other _ _ known).elim
    next => exact allLack_cons.mpr ⟨ihFirst lack.1, ihRest lack.2⟩

end Node

/-- A plain script has only traits that are left when types are gone. -/
theorem Module.plain_lacks_of_remains {t : Trait} {m : Module} (each : Node.AllLack t m.remains) :
    Node.AllLack t m.plain.items := by
  refine Node.allLack_append.mpr ⟨Lowering.lowerItems_lacks each, ?_⟩
  split
  · have mark : Node.Lacks t (.mk (.exportNames false) 0 [.absent, .absent]) :=
      (Node.lacks_pair rfl).mpr ⟨Node.lacks_absent, Node.lacks_absent⟩
    exact Node.allLack_cons.mpr ⟨mark, Node.allLack_nil⟩
  · exact Node.allLack_nil

/-- A plain script has only traits that the module has. -/
theorem Module.plain_lacks {t : Trait} {m : Module} (each : Node.AllLack t m.items) :
    Node.AllLack t m.plain.items := by
  refine Module.plain_lacks_of_remains (Node.withoutTypes_lacks.2.2 _ fun n member => ?_)
  obtain ⟨n', present, needed⟩ := List.mem_filterMap.mp member
  obtain ⟨item, known, rfl⟩ := Option.map_eq_some_iff.mp needed
  exact Node.withoutTypeAliases_lacks.1 item (Node.keep?_lacks known (each n' present))

end ScriptBundle.Script
