import ScriptBundle.Proofs.Repetitions
import ScriptBundle.Proofs.Script.DeclaredNames
import ScriptBundle.Proofs.Script.FreeNames

/-! What looking a name up depends on. Whether a name is free in a tree follows from whether the scopes
around it declare that name, so two modules whose scopes agree on the name, and which differ in one item
alone, agree on where it is free. Marks of other names and the numbers of scopes may differ. -/
namespace ScriptBundle.Script

open Scopes

def Kind.remarked (remark : String → Mark → Mark) : Kind → Kind
  | .identifier name mark => .identifier name (remark name mark)
  | kind => kind

theorem Kind.remarked_of_other {kind : Kind} (other : kind.isName = false)
    (remark : String → Mark → Mark) : kind.remarked remark = kind := by
  cases kind <;> first | rfl | cases other

/-- Other marks make no other kind. -/
theorem Kind.eq_of_remarked {kind kind' : Kind} (other : kind.isName = false)
    {remark : String → Mark → Mark} (same : kind'.remarked remark = kind) : kind' = kind := by
  cases kind' with
  | identifier =>
    subst same
    cases other
  | _ => exact same

theorem Kind.exists_of_isName {kind : Kind} (name : kind.isName = true) :
    ∃ x mark, kind = .identifier x mark := by
  cases kind with
  | identifier x mark => exact ⟨x, mark, rfl⟩
  | _ => cases name

theorem Kind.isName_remarked (kind : Kind) (remark : String → Mark → Mark) :
    (kind.remarked remark).isName = kind.isName := by
  cases kind <;> rfl

/-- Where a name is free, and nothing else of any mark. -/
def onlyFree (name other : String) (mark : Mark) : Mark :=
  if other = name ∧ mark = .unresolved then .unresolved else .unknown

/-- Nothing of any mark. -/
def unmarked (_ : String) (_ : Mark) : Mark := .unknown

theorem Kind.unmarked_remarked (kind : Kind) (remark : String → Mark → Mark) :
    (kind.remarked remark).remarked unmarked = kind.remarked unmarked := by
  cases kind <;> rfl

namespace Node

variable {remark : String → Mark → Mark}

mutual

/-- A tree with other marks. -/
def remarked (remark : String → Mark → Mark) : Node → Node
  | mk kind offset parts => mk (kind.remarked remark) offset (remarkedAll remark parts)

def remarkedAll (remark : String → Mark → Mark) : List Node → List Node
  | [] => []
  | n :: rest => n.remarked remark :: remarkedAll remark rest

end

theorem remarkedAll_eq (ns : List Node) : remarkedAll remark ns = ns.map (remarked remark) := by
  induction ns with
  | nil => rfl
  | cons n rest ih => rw [remarkedAll, ih, List.map_cons]

theorem remarked_mk (kind : Kind) (offset : Nat) (parts : List Node) :
    (mk kind offset parts).remarked remark =
      mk (kind.remarked remark) offset (parts.map (remarked remark)) := by
  rw [remarked, remarkedAll_eq]

theorem remarked_other {kind : Kind} (other : kind.isName = false) (offset : Nat)
    (parts : List Node) : (mk kind offset parts).remarked remark =
      mk kind offset (parts.map (remarked remark)) := by
  rw [remarked_mk, Kind.remarked_of_other other]

/-- Whether two nodes are of the same kind, whatever their marks. -/
def SameKind (n n' : Node) : Prop := n.kind.remarked unmarked = n'.kind.remarked unmarked

theorem SameKind.eq {n n' : Node} (same : SameKind n n') (other : n.kind.isName = false) :
    n'.kind = n.kind := by
  rw [SameKind, Kind.remarked_of_other other] at same
  exact Kind.eq_of_remarked other same.symm

/-- What can be told from the kind of a node, whatever its mark, is the same for nodes of the same
kind. -/
theorem SameKind.congr {α : Type} {f : Node → α} {n n' : Node} (same : SameKind n n')
    (byKind : ∀ kind offset offset' parts parts', f (mk kind offset parts) = f (mk kind offset' parts'))
    (names : ∀ x mark mark' offset, f (mk (.identifier x mark) offset []) =
      f (mk (.identifier x mark') offset [])) : f n = f n' := by
  cases other : n.kind.isName with
  | false =>
    have kind := same.eq other
    obtain ⟨_, _, _⟩ := n
    obtain ⟨_, _, _⟩ := n'
    obtain rfl := kind
    exact byKind _ _ _ _ _
  | true =>
    have other' : n'.kind.isName = true := by
      rw [← Kind.isName_remarked _ unmarked, ← show _ = _ from same, Kind.isName_remarked, other]
    obtain ⟨_, _, _⟩ := n
    obtain ⟨_, offset, parts⟩ := n'
    obtain ⟨x, mark, rfl⟩ := Kind.exists_of_isName other
    obtain ⟨x', mark', rfl⟩ := Kind.exists_of_isName other'
    obtain ⟨rfl, -⟩ := Kind.identifier.inj same
    rw [byKind _ _ 0 _ [], names x mark mark', byKind _ 0 offset [] parts]

/-- Whether two nodes are of the same kind, and so are their parts. -/
structure SameKinds (n n' : Node) : Prop where
  node : SameKind n n'
  parts : List.Forall₂ SameKind n.parts n'.parts

/-- What has the kind of something other than a name had it under all marks. -/
theorem exists_of_remarked {n : Node} {kind : Kind} (other : kind.isName = false) {offset : Nat}
    {parts : List Node} (same : n.remarked remark = mk kind offset parts) :
    ∃ parts', n = mk kind offset parts' ∧ parts'.map (remarked remark) = parts := by
  obtain ⟨kind', offset', parts'⟩ := n
  rw [remarked_mk] at same
  obtain ⟨sameKind, rfl, rfl⟩ := mk.inj same
  obtain rfl := Kind.eq_of_remarked other sameKind
  exact ⟨parts', rfl, rfl⟩

/-- Whether two trees differ at most in marks, and a name is free in both at the same places. -/
def FreeAlike (name : String) (n n' : Node) : Prop :=
  n.remarked (onlyFree name) = n'.remarked (onlyFree name)

section alike

variable {name : String} {n n' : Node}

theorem FreeAlike.symm (alike : FreeAlike name n n') : FreeAlike name n' n := Eq.symm alike

theorem freeAlike_iff {ns ns' : List Node} : List.Forall₂ (FreeAlike name) ns ns' ↔
    ns.map (remarked (onlyFree name)) = ns'.map (remarked (onlyFree name)) := by
  rw [← List.forall₂_eq_eq_eq, List.forall₂_map_left_iff, List.forall₂_map_right_iff]
  rfl

/-- What is like a node that is no name is of its kind and has parts like its parts. -/
theorem FreeAlike.exists_parts {kind : Kind} {offset : Nat} {parts : List Node}
    (alike : FreeAlike name (mk kind offset parts) n') (other : kind.isName = false) :
    ∃ parts', n' = mk kind offset parts' ∧ List.Forall₂ (FreeAlike name) parts parts' := by
  rw [FreeAlike, remarked_other other] at alike
  obtain ⟨parts', rfl, same⟩ := exists_of_remarked other alike.symm
  exact ⟨parts', rfl, freeAlike_iff.mpr same.symm⟩

theorem FreeAlike.sameKind (alike : FreeAlike name n n') : SameKind n n' := by
  obtain ⟨kind, offset, parts⟩ := n
  obtain ⟨kind', offset', parts'⟩ := n'
  have same := congrArg (·.kind.remarked unmarked) alike
  simp only [remarked_mk, Node.kind, Kind.unmarked_remarked] at same
  exact same

/-- What is like a free name is the name, where it is free. -/
theorem FreeAlike.eq_free {offset : Nat}
    (alike : FreeAlike name (mk (.identifier name .unresolved) offset []) n') :
    n' = mk (.identifier name .unresolved) offset [] := by
  obtain ⟨kind, offset', parts⟩ := n'
  rw [FreeAlike, remarked_mk, remarked_mk] at alike
  obtain ⟨same, rfl, none⟩ := mk.inj alike
  obtain rfl := List.map_eq_nil_iff.mp none.symm
  cases kind with
  | identifier other mark =>
    obtain ⟨rfl, same⟩ := Kind.identifier.inj same
    have free : mark = .unresolved := by
      by_contra bound
      simp [onlyFree, bound] at same
    rw [free]
  | _ => cases same

end alike

end Node

namespace Scopes

variable {name : String} {scopes scopes' : Scopes}

/-- Whether scopes declare a name just if others do, keep it from functions in blocks just if the others
do, and stand in types just if the others do. What they declare as types may be left open. -/
structure Agree (name : String) (typed : Prop) (inType : Bool) (scopes scopes' : Scopes) : Prop where
  values : scopes.HasValue name ↔ scopes'.HasValue name
  types : typed → (scopes.HasType name ↔ scopes'.HasType name)
  reserved : name ∈ scopes.reserved ↔ name ∈ scopes'.reserved
  first : scopes.inType = inType
  second : scopes'.inType = inType

variable {typed : Prop} {inType : Bool}

theorem Agree.declares (agree : Agree name typed inType scopes scopes') (known : inType = true → typed) :
    scopes.Declares name ↔ scopes'.Declares name := by
  unfold Declares
  rw [agree.values, agree.first, agree.second]
  exact or_congr_right (and_congr_right fun inside => agree.types (known inside))

theorem Agree.push (agree : Agree name typed inType scopes scopes') {names names' types : List String}
    (same : name ∈ names ↔ name ∈ names') (number number' : Nat) :
    Agree name typed inType { scopes with chain := ⟨number, names, types⟩ :: scopes.chain }
      { scopes' with chain := ⟨number', names', types⟩ :: scopes'.chain } where
  values := by
    rw [hasValue_cons, hasValue_cons]
    exact or_congr same agree.values
  types known := by
    rw [hasType_cons, hasType_cons]
    exact or_congr_right (agree.types known)
  reserved := agree.reserved
  first := agree.first
  second := agree.second

theorem Agree.lasts (name : String) (typed : Prop) : Lasts (Agree name typed) where
  push agree number number' _ _ := agree.push Iff.rfl number number'
  typed agree := ⟨agree.values, agree.types, agree.reserved, rfl, rfl⟩
  reserve agree _ := ⟨agree.values, agree.types, Iff.rfl, agree.first, agree.second⟩
  enterBlock agree statements := fun number number' => agree.push (by
    simp only [List.mem_append, List.mem_filter, List.contains_iff_mem, agree.reserved]) number number'

theorem Agree.onlyFree_mark (agree : Agree name typed inType scopes scopes') {other : String}
    (known : inType = true → other = name → typed) :
    onlyFree name other (scopes.mark other) = onlyFree name other (scopes'.mark other) := by
  refine if_congr (and_congr_right fun same => ?_) rfl rfl
  rw [same, mark_eq_unresolved, mark_eq_unresolved, agree.declares fun inside => known inside same]

theorem HasValue.lasts (name : String) : Lasts fun _ scopes _ => scopes.HasValue name where
  push declared _ _ _ _ := hasValue_cons.mpr (.inr declared)
  typed declared := declared
  reserve declared _ := declared
  enterBlock declared _ := fun _ _ => hasValue_cons.mpr (.inr declared)

end Scopes

namespace Node

mutual

/-- The names that stand in the types of a tree, or anywhere in it if the tree stands in a type. -/
def namesInTypes (inType : Bool) : Node → List String
  | mk (.identifier name _) _ types =>
    (if inType then [name] else []) ++ namesInTypesOfAll inType types
  | mk kind _ parts => namesInTypesOfAll (kind.isTypes || inType) parts

def namesInTypesOfAll (inType : Bool) : List Node → List String
  | [] => []
  | n :: rest => n.namesInTypes inType ++ namesInTypesOfAll inType rest

end

variable {name : String} {typed : Prop} {inType : Bool} {scopes scopes' : Scopes}

/-- Scopes that agree on a name give trees where it is free at the same places, if they agree on it as
a type too or it does not stand in types. -/
theorem resolve_freeAlike :
    (∀ scopes n, ∀ inType scopes', Agree name typed inType scopes scopes' →
      Match (fun n₁ n₂ => (name ∈ n.namesInTypes inType → typed) → FreeAlike name n₁ n₂)
        (resolve scopes n) (resolve scopes' n)) ∧
    ∀ scopes ns, ∀ inType scopes', Agree name typed inType scopes scopes' →
      Match (fun ns₁ ns₂ => (name ∈ namesInTypesOfAll inType ns → typed) →
          List.Forall₂ (FreeAlike name) ns₁ ns₂)
        (resolveAll scopes ns) (resolveAll scopes' ns) := by
  refine resolve_match (R := fun inType n n₁ n₂ =>
      (name ∈ n.namesInTypes inType → typed) → FreeAlike name n₁ n₂)
    (Q := fun inType ns ns₁ ns₂ =>
      (name ∈ namesInTypesOfAll inType ns → typed) → List.Forall₂ (FreeAlike name) ns₁ ns₂)
    (Agree.lasts name typed) ⟨?_, ?_, fun _ => .nil, ?_⟩
  · intro inType scopes scopes' agree other mark offset types firsts seconds alike known
    have parts := alike fun inside => known (List.mem_append_right _ inside)
    have here : inType = true → other = name → typed := by
      rintro rfl rfl
      exact known List.mem_cons_self
    simp [FreeAlike, remarked_mk, Kind.remarked, agree.onlyFree_mark here, freeAlike_iff.mp parts]
  · intro inType kind other offset parts firsts seconds alike known
    have inside : (mk kind offset parts).namesInTypes inType =
        namesInTypesOfAll (kind.isTypes || inType) parts := by
      cases kind <;> first | rfl | cases other
    rw [inside] at known
    rw [FreeAlike, remarked_mk, remarked_mk, freeAlike_iff.mp (alike known)]
  · intro inType n first second rest firsts seconds head tail known
    exact .cons (head fun inside => known (List.mem_append_left _ inside))
      (tail fun inside => known (List.mem_append_right _ inside))

/-- Looking names up keeps the kinds of a node and its parts. -/
theorem resolve_sameKinds (scopes : Scopes) (n : Node) :
    Gives (SameKinds n) (resolve scopes n) := by
  refine (resolve_gives (R := SameKinds) (Q := List.Forall₂ SameKind) ⟨?_, ?_, .nil, ?_⟩).1 scopes n
  · exact fun _ name mark offset types firsts seconds same => ⟨rfl, same⟩
  · exact fun other offset parts firsts seconds same => ⟨rfl, same⟩
  · exact fun head tail => .cons head.node tail

/-- Without one of its nodes, a list agrees with the list on where a name is free. -/
theorem resolveAll_eraseIdx (agree : Agree name typed inType scopes scopes') {ns : List Node} {i : Nat}
    {n : Node} (at_ : ns[i]? = some n)
    (known : name ∈ namesInTypesOfAll inType (ns.eraseIdx i) → typed) :
    Match (fun found found' => ∃ n', found[i]? = some n' ∧ SameKinds n n' ∧
        List.Forall₂ (FreeAlike name) (found.eraseIdx i) found')
      (resolveAll scopes ns) (resolveAll scopes' (ns.eraseIdx i)) := by
  induction ns generalizing i with
  | nil => cases at_
  | cons first rest ih =>
    cases i with
    | zero =>
      -- Only one of the two runs looks names up in the node. All that the other one can tell of this
      -- is the count of scopes, which does not matter.
      cases at_
      rw [resolveAll]
      intro number number'
      exact ⟨_, rfl, resolve_sameKinds scopes n number,
        resolve_freeAlike.2 scopes rest inType scopes' agree _ number' known⟩
    | succ i =>
      rw [List.eraseIdx_cons_succ] at known
      rw [List.eraseIdx_cons_succ, resolveAll, resolveAll]
      refine .bind (resolve_freeAlike.1 scopes first inType scopes' agree) fun _ _ same => ?_
      refine .bind (ih at_ fun inside => known (List.mem_append_right _ inside)) ?_
      rintro found found' ⟨n', at_, kinds, alike⟩
      have first := same fun inside => known (List.mem_append_left _ inside)
      exact .pure ⟨n', at_, kinds, .cons first alike⟩

end Node

namespace Module

/-- A module without one of its items. -/
def without (m : Module) (i : Nat) : Module := { m with items := m.items.eraseIdx i }

variable {m : Module} {i : Nat} {n : Node} {name : String}

/-- The names that stand in the types of a module. -/
def namesInTypes (m : Module) : List String := Node.namesInTypesOfAll false m.items

/-- An item that does not declare a name does not decide whether the scope of the module does. -/
theorem agree_without (at_ : m.items[i]? = some n) (lexical : name ∉ n.lexicalNames)
    (hoisted : name ∉ n.hoistedNames) :
    Scopes.Agree name (name ∉ n.lexicalTypes) false m.ownScopes (m.without i).ownScopes := by
  obtain ⟨before, after, whole, -, erased⟩ := exists_split at_
  have among {names : Node → List String} (new : name ∉ names n) :
      name ∈ m.items.flatMap names ↔ name ∈ (m.without i).items.flatMap names := by
    rw [without, erased, whole]
    simp [new]
  refine ⟨?_, fun types => ?_, among lexical, rfl, rfl⟩
  · rw [hasValue_ownScopes, hasValue_ownScopes, ownNames, ownNames, List.mem_append, List.mem_append,
      Node.hoistedNamesOfAll_eq, Node.hoistedNamesOfAll_eq]
    exact or_congr (among lexical) (among hoisted)
  · rw [hasType_ownScopes, hasType_ownScopes]
    exact among types

/-- Without an item that does not declare a name, a module has the same other items, where the name is
free at the same places. A type of that name may be declared if the name does not stand in types. -/
theorem resolved_without (at_ : m.items[i]? = some n) (lexical : name ∉ n.lexicalNames)
    (hoisted : name ∉ n.hoistedNames)
    (types : name ∈ n.lexicalTypes → name ∉ (m.without i).namesInTypes) :
    ∃ n', m.resolved.items[i]? = some n' ∧ Node.SameKinds n n' ∧
      List.Forall₂ (Node.FreeAlike name) (m.resolved.items.eraseIdx i)
        (m.without i).resolved.items :=
  Node.resolveAll_eraseIdx (agree_without at_ lexical hoisted) at_
    (fun inside declared => types declared inside) 1 1

end Module

end ScriptBundle.Script
