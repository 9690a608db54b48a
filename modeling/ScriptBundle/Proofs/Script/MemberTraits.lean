import Mathlib.Data.List.Basic
import ScriptBundle.Proofs.Script.Traits
import ScriptBundle.Script.Enumeration

/-! What is written for the values of enumerations has no new traits: a constant has none, and an
expression that stays has only those that it has where it stands. -/
namespace ScriptBundle.Script

open Node (Lacks AllLack allLack_cons lacks_single lacks_pair lacks_cons)

variable {t : Trait}

namespace MemberValue

theorem lacks_of_isConstant {v : MemberValue} (constant : v.isConstant = true) : Lacks t v.node := by
  cases v with
  | text | number => exact Node.lacks_leaf rfl
  | computed | missing => cases constant

theorem lacks_missing : Lacks t missing.node := (lacks_single rfl).mpr (Node.lacks_leaf rfl)

theorem lacks_successor (v : MemberValue) : Lacks t v.successor.node := by
  cases v with
  | number => exact Node.lacks_leaf rfl
  | text | computed | missing => exact lacks_missing

end MemberValue

namespace Enumerations

variable {known : Enumerations} {enum : Symbol}

theorem lacks_constant? {member : String} {value : MemberValue}
    (found : known.constant? enum member = some value) : Lacks t value.node :=
  MemberValue.lacks_of_isConstant (Option.filter_eq_some_iff.mp found).2

theorem combine?_isConstant {operator : String} {first second found : MemberValue}
    (combined : combine? operator first second = some found) : found.isConstant = true := by
  unfold combine? at combined
  split at combined
  next x y =>
    obtain ⟨_, -, rfl⟩ := Option.map_eq_some_iff.mp combined
    rfl
  next =>
    split at combined
    · simp only [bind, Option.bind_eq_some_iff] at combined
      obtain ⟨_, -, _, -, combined⟩ := combined
      cases combined
      rfl
    · cases combined

/-- What an expression stands for has only traits that the expression has. -/
theorem value_lacks (known : Enumerations) (own : Lacks t (Node.ofSymbol enum)) :
    ∀ n, Lacks t n → Lacks t (known.value enum n).node := by
  apply Enumerations.value.induct known enum (fun _ _ => True)
  case case1 | case2 =>
    intros
    rw [value]
    exact Node.lacks_leaf rfl
  case case3 =>
    intro name mark offset parts special lacks
    rw [value, if_pos special]
    exact Node.lacks_leaf rfl
  case case4 =>
    intro name mark offset parts plain unknown lacks
    rw [value, if_neg plain, unknown]
    exact lacks
  case case5 =>
    intro name mark offset parts plain found member constant lacks
    rw [value, if_neg plain, member]
    dsimp only
    rw [if_pos constant]
    exact MemberValue.lacks_of_isConstant constant
  case case6 =>
    intro name mark offset parts plain found member other lacks
    rw [value, if_neg plain, member]
    dsimp only
    rw [if_neg other]
    exact (Node.lacks_access name).mpr own
  case case7 =>
    intro offset inner ih lacks
    rw [value]
    exact ih ((lacks_single rfl).mp lacks)
  case case8 =>
    intro operator offset operand signed x number _ lacks
    rw [value, if_pos signed, number]
    exact Node.lacks_leaf rfl
  case case9 =>
    intro operator offset operand signed other ih lacks
    rw [value, if_pos signed]
    split
    next x number => exact (other x number).elim
    next => exact (lacks_single rfl).mpr (ih ((lacks_single rfl).mp lacks))
  case case10 =>
    intro operator offset operand other lacks
    rw [value, if_neg other]
    exact lacks
  case case11 =>
    intro operator offset left right known' first second found combined _ _ lacks
    rw [value, if_pos known']
    simp only [first, second] at combined
    simp only [combined]
    exact MemberValue.lacks_of_isConstant (combine?_isConstant combined)
  case case12 =>
    intro operator offset left right known' first second open_ _ _ lacks
    rw [lacks_pair rfl] at lacks
    rw [value, if_pos known']
    simp only [first, second] at open_
    simp only [open_]
    have side {n : Node} (lacks : Lacks t n) : Lacks t
        (if (known.value enum n).isConstant = true then (known.value enum n).node else n) := by
      split
      next constant => exact MemberValue.lacks_of_isConstant constant
      next => exact lacks
    exact (lacks_pair rfl).mpr ⟨side lacks.1, side lacks.2⟩
  case case13 =>
    intro operator offset left right other lacks
    rw [value, if_neg other]
    exact lacks
  case case14 =>
    intro offset raw cooked place parts more text constant _ lacks
    rw [value]
    simp only [constant]
    exact Node.lacks_leaf rfl
  case case15 =>
    intro offset raw cooked place parts more open_ _ lacks
    rw [value]
    simp only [open_]
    exact lacks
  case case16 =>
    intro n _ _ _ _ _ _ _ object key access lacks
    rw [value, access]
    · dsimp only
      cases constant : known.constant? object key with
      | none => exact lacks
      | some found => exact lacks_constant? constant
    all_goals assumption
  case case17 =>
    intro n _ _ _ _ _ _ _ other lacks
    rw [value, other]
    · exact lacks
    all_goals assumption
  all_goals
    intros
    trivial

theorem kind_qualified {n : Node} (part : n.isFunctionPart) :
    (known.qualified enum n).kind = n.kind := by
  unfold qualified
  split
  · cases part
  · rfl
  · rfl

theorem allQualified_whole {ns : List Node} (whole : ns.all Node.isFunctionPart) :
    (known.allQualified enum ns).all Node.isFunctionPart := by
  induction ns with
  | nil => rfl
  | cons n rest ih =>
    rw [List.all_cons, Bool.and_eq_true] at whole
    rw [allQualified, List.all_cons, ih whole.2, Node.isFunctionPart, kind_qualified whole.1]
    exact (Bool.and_true _).trans whole.1

theorem qualified_lacks (own : Lacks t (Node.ofSymbol enum)) :
    (∀ n, Lacks t n → Lacks t (known.qualified enum n)) ∧
    ∀ ns, AllLack t ns → AllLack t (known.allQualified enum ns) := by
  apply qualified.mutual_induct
  case case1 =>
    intro name mark offset parts member lacks
    rw [qualified, if_pos member]
    exact (Node.lacks_access name).mpr own
  case case2 =>
    intro name mark offset parts other lacks
    rw [qualified, if_neg other]
    exact lacks
  case case3 =>
    intro offset parts lacks
    rw [qualified]
    exact lacks
  case case4 =>
    intro kind offset parts _ _ ih lacks
    rw [qualified]
    · exact lacks.with ih allQualified_whole
    all_goals assumption
  case case5 => exact id
  case case6 =>
    intro n rest ihFirst ihRest lack
    rw [allLack_cons] at lack
    rw [allQualified, allLack_cons]
    exact ⟨ihFirst lack.1, ihRest lack.2⟩

theorem memberValue_lacks (known : Enumerations) (own : Lacks t (Node.ofSymbol enum))
    {previous : MemberValue} (before : Lacks t previous.node) {member : Node} (lacks : Lacks t member) :
    Lacks t (known.memberValue enum previous member).node := by
  unfold memberValue
  split
  next offset name value =>
    have inside := value_lacks known own value ((lacks_pair rfl).mp lacks).2
    split
    · exact before
    · split
      next found computed =>
        rw [computed] at inside
        exact (qualified_lacks own).1 found inside
      next => exact before
      next => exact inside
  next => exact before

/-- Whether a trait is missing in the values of all members. -/
def Lacks (t : Trait) (known : Enumerations) : Prop :=
  ∀ member ∈ known.members, Node.Lacks t member.2.node

theorem Lacks.find? (lack : known.Lacks t) {member : String} {value : MemberValue}
    (found : known.find? enum member = some value) : Node.Lacks t value.node := by
  obtain ⟨before, after, members, -⟩ := List.lookup_eq_some_iff.mp found
  exact lack ((enum, member), value) (by simp [members])

theorem insertMembers_lacks {known : Enumerations} {previous : MemberValue} {members : List Node}
    (own : Node.Lacks t (Node.ofSymbol enum)) (lack : known.Lacks t)
    (before : Node.Lacks t previous.node) (each : AllLack t members) :
    (insertMembers enum known previous members).Lacks t := by
  induction members generalizing known previous with
  | nil => exact lack
  | cons member rest ih =>
    rw [allLack_cons] at each
    have value := memberValue_lacks known own before each.1
    refine ih ?_ (MemberValue.lacks_successor _) each.2
    exact List.forall_mem_cons.mpr ⟨value, lack⟩

/-- The values of the members in a tree have only traits that the tree has, even inside of functions if
these count. -/
theorem collect_lacks (deep : t.isDeep = true) :
    (∀ known n, Lacks t known → Node.Lacks t n → Lacks t (collect known n)) ∧
    ∀ known ns, Lacks t known → AllLack t ns → Lacks t (collectAll known ns) := by
  apply collect.mutual_induct
  case case1 =>
    intro known isConst isDeclared offset name members enum symbol ih lack lacks
    rw [lacks_cons rfl] at lacks
    rw [collect]
    simp only [symbol]
    exact insertMembers_lacks (lacks.1.ofSymbol symbol) (ih lack lacks.2) (Node.lacks_leaf rfl) lacks.2
  case case2 =>
    intro known isConst isDeclared offset name members symbol ih lack lacks
    rw [lacks_cons rfl] at lacks
    rw [collect]
    simp only [symbol]
    exact ih lack lacks.2
  case case3 =>
    intro known kind offset parts _ ih lack lacks
    rw [collect]
    · exact ih lack (lacks.inside (Trait.enters_all deep kind))
    all_goals assumption
  case case4 => exact fun _ lack _ => lack
  case case5 =>
    intro known n rest ihFirst ihRest lack each
    rw [allLack_cons] at each
    rw [collectAll]
    exact ihRest (ihFirst lack each.1) each.2

end Enumerations

end ScriptBundle.Script
