import ScriptBundle.Proofs.Rewriting.Exports
import ScriptBundle.Proofs.Rewriting.Traits
import ScriptBundle.Proofs.Rewriting.Unlinked

/-! What is left of a linked module when types are gone. To redirect calls and to drop aliases that only
types use brings nothing back: what was erased before still is, and what is left has only the traits that
are left without linking, apart from those of the code that linking writes. -/
namespace ScriptBundle.Rewriting

open Script
open Node (Lacks AllLack allLack_nil allLack_cons IsItem)

variable {t : Trait} {target : String → Identity}

/-! ### What is kept -/

section kept

theorem isAbsent_redirected (n : Node) : (redirected target n).isAbsent = n.isAbsent := by
  rw [Node.isAbsent, kind_redirected, Node.isAbsent]

theorem hasBody_redirected (n : Node) : (redirected target n).hasBody = n.hasBody := by
  obtain ⟨kind, offset, parts⟩ := n
  cases kind with
  | function =>
    rw [redirected_mk (by simp)]
    match parts with
    | [] | [_] => rfl
    | _ :: body :: _ => exact congrArg (! ·) (isAbsent_redirected body)
  | _ =>
    obtain ⟨offset', parts', same⟩ := redirected_sameKind target _ offset parts
    rw [same]
    rfl

theorem isAnyConcrete_congr {ns ns' : List Node}
    (same : List.Forall₂ (fun n n' : Node => n'.isConcrete = n.isConcrete) ns ns') :
    Node.isAnyConcrete ns' = Node.isAnyConcrete ns := by
  induction same with
  | nil => rfl
  | cons first _ ih => rw [Node.isAnyConcrete, Node.isAnyConcrete, first, ih]

theorem isConcrete_redirected : (∀ n, (redirected target n).isConcrete = n.isConcrete) ∧
    ∀ ns, List.Forall₂ (fun n n' : Node => n'.isConcrete = n.isConcrete) ns (redirectedAll target ns) := by
  apply redirected.mutual_induct
  case case1 =>
    intro kind offset parts ih
    cases kind with
    | call =>
      obtain ⟨offset', parts', same⟩ := redirected_sameKind target _ offset parts
      rw [same]
      rfl
    | functionDeclaration =>
      rw [redirected_mk (by simp)]
      rcases parts with _ | ⟨_, _ | ⟨function, _ | _⟩⟩
      case cons.cons.nil => exact hasBody_redirected function
      all_goals rfl
    | «namespace» =>
      rw [redirected_mk (by simp)]
      rcases parts with _ | ⟨_, _ | ⟨body, _ | _⟩⟩
      case cons.cons.nil => exact (List.forall₂_cons.mp (List.forall₂_cons.mp ih).2).1
      all_goals rfl
    | namespaceBlock =>
      rw [redirected_mk (by simp)]
      exact isAnyConcrete_congr ih
    | exportDeclaration | exportDefaultDeclaration =>
      rw [redirected_mk (by simp)]
      rcases parts with _ | ⟨inner, _ | _⟩
      case cons.nil => exact (List.forall₂_cons.mp ih).1
      all_goals rfl
    | _ =>
      rw [redirected_mk (by simp)]
      rfl
  case case2 => exact .nil
  case case3 => exact fun n rest first others => .cons first others

theorem isDeclared_redirected : ∀ n, (redirected target n).isDeclared = n.isDeclared
  | .mk kind offset parts => by
    cases kind with
    | exportDeclaration =>
      rw [redirected_mk (by simp)]
      match parts with
      | [] | _ :: _ :: _ => rfl
      | [inner] => exact isDeclared_redirected inner
    | _ =>
      obtain ⟨offset', parts', same⟩ := redirected_sameKind target _ offset parts
      rw [same]
      rfl

theorem isKeptMember_redirected (n : Node) : (redirected target n).isKeptMember = n.isKeptMember := by
  obtain ⟨kind, offset, parts⟩ := n
  cases kind with
  | classMethod modifiers =>
    rw [redirected_mk (by simp)]
    match parts with
    | [] | [_] | _ :: _ :: _ :: _ => rfl
    | [_, function] => exact congrArg (!modifiers.isAbstract && ·) (hasBody_redirected function)
  | constructor =>
    rw [redirected_mk (by simp)]
    match parts with
    | [] | [_] | [_, _] | _ :: _ :: _ :: _ :: _ => rfl
    | [_, _, body] => exact congrArg (! ·) (isAbsent_redirected body)
  | _ =>
    obtain ⟨offset', parts', same⟩ := redirected_sameKind target _ offset parts
    rw [same]
    rfl

theorem isKept_redirected (n : Node) : (redirected target n).isKept = n.isKept := by
  rw [Node.isKept, isConcrete_redirected.1, isDeclared_redirected, isKeptMember_redirected, Node.isKept]

end kept

/-! ### Aliases that only types use -/

section aliases

theorem keep?_alias {usage : Usage} {n n' : Node} {isExported isTypeOnly : Bool}
    (aliased : n.kind = .alias isExported isTypeOnly) (kept : usage.keep? n = some n') : n' = n := by
  obtain ⟨kind, offset, parts⟩ := n
  obtain rfl : kind = .alias isExported isTypeOnly := aliased
  match parts, kept with
  | [], kept | [_], kept | _ :: _ :: _ :: _, kept => exact (Option.some.inj kept).symm
  | [_, _], kept => exact (Option.some.inj (Option.ite_none_left_eq_some.mp kept).2).symm

/-- What is left of a namespace without aliases was left of it with them. -/
theorem isConcrete_withoutTypeAliases :
    (∀ n : Node, n.withoutTypeAliases.isConcrete → n.isConcrete) ∧
    ∀ usage ns, Node.isAnyConcrete (Node.withoutTypeAliasesOfAll usage ns) → Node.isAnyConcrete ns := by
  apply Node.withoutTypeAliases.mutual_induct
  case case1 =>
    intro offset items usage ih concrete
    exact ih concrete
  case case2 =>
    intro isDeclared isGlobal offset name body ih concrete
    exact ih concrete
  case case3 =>
    intro offset inner ih concrete
    exact ih concrete
  case case4 =>
    intro n _ _ _ concrete
    rwa [Node.withoutTypeAliases] at concrete
    all_goals assumption
  case case5 => exact fun _ => id
  case case6 =>
    intro usage n rest isExported isTypeOnly aliased ihRest ihFirst concrete
    rw [Node.withoutTypeAliasesOfAll] at concrete
    simp only [aliased] at concrete
    rw [Node.isAnyConcrete, Bool.or_eq_true]
    cases kept : usage.keep? n.withoutTypeAliases with
    | none =>
      rw [kept] at concrete
      exact .inr (ihRest concrete)
    | some n' =>
      have same := keep?_alias (n.kind_withoutTypeAliases.trans aliased) kept
      rw [kept, same, Option.toList_some, List.singleton_append, Node.isAnyConcrete,
        Bool.or_eq_true] at concrete
      exact concrete.imp ihFirst ihRest
  case case7 =>
    intro usage n rest other ihRest ihFirst concrete
    rw [Node.withoutTypeAliasesOfAll] at concrete
    split at concrete
    next known => exact (other _ _ known).elim
    next =>
      rw [Node.isAnyConcrete, Bool.or_eq_true] at concrete ⊢
      exact concrete.imp ihFirst ihRest

theorem isDeclared_withoutTypeAliases : ∀ n : Node, n.withoutTypeAliases.isDeclared = n.isDeclared
  | .mk kind offset parts => by
    cases kind with
    | exportDeclaration =>
      match parts with
      | [] | _ :: _ :: _ => rfl
      | [inner] => exact isDeclared_withoutTypeAliases inner
    | «namespace» =>
      match parts with
      | [] | [_] | [_, _] | _ :: _ :: _ :: _ => rfl
    | _ => rfl

theorem isKept_withoutTypeAliases {n : Node} (kept : n.withoutTypeAliases.isKept) : n.isKept := by
  have member : n.withoutTypeAliases.isKeptMember = n.isKeptMember := by
    unfold Node.withoutTypeAliases
    split <;> rfl
  rw [Node.isKept, isDeclared_withoutTypeAliases, member, Bool.and_assoc, Bool.and_eq_true] at kept
  rw [Node.isKept, Bool.and_assoc, Bool.and_eq_true]
  exact ⟨isConcrete_withoutTypeAliases.1 n kept.1, kept.2⟩

theorem allLack_kept {ns : List Node} : AllLack t (Node.keptWithoutTypes ns) ↔
    ∀ n ∈ ns, n.isKept → Lacks t n.withoutTypes := by
  rw [Node.keptWithoutTypes_eq]
  simp only [AllLack, List.forall_mem_map, List.mem_filter, and_imp]

theorem allLack_values {ns : List Node} : AllLack t (Node.allWithoutTypes ns) ↔
    ∀ n ∈ ns, n.isTypes = false → Lacks t n.withoutTypes := by
  rw [Node.allWithoutTypes_eq]
  simp only [AllLack, List.forall_mem_map, List.mem_filter, Bool.not_eq_true', and_imp]

/-- Where a value is the default, what is left of it is left. -/
theorem lacks_withoutTypes_default (named : ∀ name mark, Lacks t (.leaf (.identifier name mark)))
    {value : Node} : Lacks t (mergeExports [defaultProperty value]).withoutTypes ↔
      (value.isTypes = false → Lacks t value.withoutTypes) := by
  have same : (mergeExports [defaultProperty value]).withoutTypes =
      mergeExports [.mk .property 0 (Node.word "default" :: Node.allWithoutTypes [value])] := rfl
  rw [same, lacks_mergeExports named, allLack_cons, Node.lacks_cons rfl, allLack_values,
    List.forall_mem_singleton]
  simp

theorem isTypes_withoutTypeAliases (n : Node) : n.withoutTypeAliases.isTypes = n.isTypes := by
  rw [Node.isTypes, Node.isTypes, n.kind_withoutTypeAliases]

/-- What is left without aliases has only traits of what is left with them. -/
theorem withoutTypeAliases_withoutTypes_lacks :
    (∀ n : Node, Lacks t n.withoutTypes → Lacks t n.withoutTypeAliases.withoutTypes) ∧
    ∀ usage ns, AllLack t (Node.keptWithoutTypes ns) →
      AllLack t (Node.keptWithoutTypes (Node.withoutTypeAliasesOfAll usage ns)) := by
  apply Node.withoutTypeAliases.mutual_induct
  case case1 =>
    intro offset items usage ih lacks
    exact lacks.within rfl ih
  case case2 =>
    intro isDeclared isGlobal offset name body ih lacks
    refine lacks.within rfl fun lack => ?_
    rw [allLack_values, List.forall_mem_cons, List.forall_mem_singleton] at lack ⊢
    rw [isTypes_withoutTypeAliases]
    exact lack.imp_right (ih ∘ ·)
  case case3 =>
    intro offset inner ih lacks
    refine lacks.within rfl fun lack => ?_
    rw [allLack_values, List.forall_mem_singleton] at lack ⊢
    rw [isTypes_withoutTypeAliases]
    exact ih ∘ lack
  case case4 =>
    intro n _ _ _ lacks
    rwa [Node.withoutTypeAliases]
    all_goals assumption
  case case5 => exact fun _ => id
  case case6 =>
    intro usage n rest isExported isTypeOnly aliased ihRest ihFirst lack
    rw [allLack_kept, List.forall_mem_cons, ← allLack_kept] at lack
    rw [Node.withoutTypeAliasesOfAll]
    simp only [aliased]
    cases kept : usage.keep? n.withoutTypeAliases with
    | none => exact ihRest lack.2
    | some n' =>
      have same := keep?_alias (n.kind_withoutTypeAliases.trans aliased) kept
      rw [same, Option.toList_some, List.singleton_append, allLack_kept, List.forall_mem_cons,
        ← allLack_kept]
      exact ⟨fun left => ihFirst (lack.1 (isKept_withoutTypeAliases left)), ihRest lack.2⟩
  case case7 =>
    intro usage n rest other ihRest ihFirst lack
    rw [allLack_kept, List.forall_mem_cons, ← allLack_kept] at lack
    rw [Node.withoutTypeAliasesOfAll]
    split
    next known => exact (other _ _ known).elim
    next =>
      rw [allLack_kept, List.forall_mem_cons, ← allLack_kept]
      exact ⟨fun left => ihFirst (lack.1 (isKept_withoutTypeAliases left)), ihRest lack.2⟩

end aliases

/-! ### Calls -/

section calls

theorem kind_withoutTypes_redirected :
    ∀ n, (redirected target n).withoutTypes.kind = n.withoutTypes.kind
  | .mk kind offset parts => by
    by_cases cast : kind = .cast
    · subst cast
      rw [redirected_mk (by simp)]
      match parts with
      | [] => rfl
      | inner :: _ => exact kind_withoutTypes_redirected inner
    · rw [Node.kind_withoutTypes_of_ne, kind_redirected, Node.kind_withoutTypes_of_ne]
      · exact cast
      · rwa [kind_redirected]

theorem allWithoutTypes_redirected_whole {ns : List Node} :
    (Node.allWithoutTypes (redirectedAll target ns)).all Node.isFunctionPart =
      (Node.allWithoutTypes ns).all Node.isFunctionPart := by
  induction ns with
  | nil => rfl
  | cons n rest ih =>
    rw [redirectedAll, Node.allWithoutTypes, Node.allWithoutTypes, isTypes_redirected]
    split_ifs
    · exact ih
    · rw [List.all_cons, List.all_cons, ih, Node.isFunctionPart, Node.isFunctionPart,
        kind_withoutTypes_redirected]

theorem withoutTypes_dispatchWith {types : List Node} (only : ∀ n ∈ types, n.isTypes)
    (identity : Identity) : (dispatchWith types identity).withoutTypes = dispatch identity := by
  have nothing : Node.allWithoutTypes types = [] := by
    rw [Node.allWithoutTypes_eq, List.map_eq_nil_iff]
    simpa using only
  have value : Node.isTypes (Node.text identity.text) = false := rfl
  rw [dispatchWith, Node.call, Node.withoutTypes]
  · simp only [Node.allWithoutTypes, value, nothing]
    rfl
  all_goals simp

/-- What is left of a tree with calls that are redirected has only traits of what is left without, apart
from those of the calls. -/
theorem redirected_withoutTypes_lacks (dispatched : ∀ identity, Lacks t (dispatch identity)) :
    (∀ n : Node, Lacks t n.withoutTypes → Lacks t (redirected target n).withoutTypes) ∧
    (∀ ns, AllLack t (Node.allWithoutTypes ns) →
      AllLack t (Node.allWithoutTypes (redirectedAll target ns))) ∧
    ∀ ns, AllLack t (Node.keptWithoutTypes ns) →
      AllLack t (Node.keptWithoutTypes (redirectedAll target ns)) := by
  apply Node.withoutTypes.mutual_induct
  case case1 =>
    intro offset inner types ih lacks
    rw [redirected_mk (by simp)]
    exact ih lacks
  case case2 | case3 =>
    intro offset statements ih lacks
    rw [redirected_mk (by simp)]
    exact lacks.within rfl ih
  case case4 | case5 =>
    intro offset first rest ihFirst ihRest lacks
    have parts := (Node.lacks_cons rfl).mp lacks
    rw [redirected_mk (by simp)]
    exact (Node.lacks_cons rfl).mpr ⟨ihFirst parts.1, ihRest parts.2⟩
  case case6 =>
    intro kind offset parts cast block items case body ih lacks
    rw [redirected]
    obtain kept | ⟨-, identity, called⟩ :=
      redirectedCall_eq target (.mk kind offset (redirectedAll target parts))
    · rw [Node.withoutTypes] at lacks
      · rw [kept, Node.withoutTypes]
        · exact lacks.with ih fun whole => allWithoutTypes_redirected_whole.trans whole
        -- the redirected parts are as many as the parts
        · rintro _ _ rfl same
          obtain ⟨inner, rest, rfl, -⟩ := List.map_eq_cons_iff.mp (redirectedAll_eq parts ▸ same)
          exact cast inner rest rfl rfl
        · exact block
        · exact items
        · rintro _ _ rfl same
          obtain ⟨test, rest, rfl, -⟩ := List.map_eq_cons_iff.mp (redirectedAll_eq parts ▸ same)
          exact case test rest rfl rfl
        · rintro _ _ rfl same
          obtain ⟨base, rest, rfl, -⟩ := List.map_eq_cons_iff.mp (redirectedAll_eq parts ▸ same)
          exact body base rest rfl rfl
      all_goals assumption
    · rw [called, withoutTypes_dispatchWith fun n member => (List.mem_filter.mp member).2]
      exact dispatched identity
  case case7 | case10 => exact id
  case case8 =>
    intro n rest typed ihRest lack
    rw [Node.allWithoutTypes, if_pos typed] at lack
    rw [redirectedAll, Node.allWithoutTypes, isTypes_redirected, if_pos typed]
    exact ihRest lack
  case case9 =>
    intro n rest untyped ihFirst ihRest lack
    rw [Node.allWithoutTypes, if_neg untyped, allLack_cons] at lack
    rw [redirectedAll, Node.allWithoutTypes, isTypes_redirected, if_neg untyped, allLack_cons]
    exact ⟨ihFirst lack.1, ihRest lack.2⟩
  case case11 =>
    intro n rest kept ihFirst ihRest lack
    rw [Node.keptWithoutTypes, if_pos kept, allLack_cons] at lack
    rw [redirectedAll, Node.keptWithoutTypes, isKept_redirected, if_pos kept, allLack_cons]
    exact ⟨ihFirst lack.1, ihRest lack.2⟩
  case case12 =>
    intro n rest dropped ihRest lack
    rw [Node.keptWithoutTypes, if_neg dropped] at lack
    rw [redirectedAll, Node.keptWithoutTypes, isKept_redirected, if_neg dropped]
    exact ihRest lack

end calls

/-- What is left of a linked module has only traits that are left of what its items become, apart from
those of the calls. -/
theorem allLack_remains {m : Module} (items : ∀ n ∈ m.items, IsItem n)
    (dispatched : ∀ identity, Lacks t (dispatch identity))
    (each : ∀ n ∈ m.items, ∀ n' ∈ lowered target (typeOnlyNames m.items) n,
      n'.isKept → Lacks t n'.withoutTypes) : AllLack t (linkedTo target m).remains := by
  rw [Module.remains_of_ordinary (linkedTo_ordinary items target), allLack_kept, List.forall_mem_map]
  intro linked member kept
  simp only [linkedTo, redirectedAll_eq, List.mem_map, List.mem_flatMap] at member
  obtain ⟨n', ⟨n, present, written⟩, rfl⟩ := member
  have left := isKept_withoutTypeAliases kept
  rw [isKept_redirected] at left
  exact withoutTypeAliases_withoutTypes_lacks.1 _
    ((redirected_withoutTypes_lacks dispatched).1 n' (each n present n' written left))

end ScriptBundle.Rewriting
