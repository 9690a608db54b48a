import ScriptBundle.Proofs.Script.Resolving
import ScriptBundle.Proofs.Script.Traits

/-! What a module may have and a script may not: `import.meta`, and an `await` outside of functions.
Looking names up adds none of it to a tree. -/
namespace ScriptBundle.Script

/-- A construct of modules. -/
inductive Construct where
  /-- An `await`, also that of a loop or a declaration, outside of every function. -/
  | await
  /-- The expression `import.meta`, anywhere. -/
  | importMeta
  deriving DecidableEq, Repr

namespace Construct

/-- Whether nodes of a kind are the construct, where it counts. -/
def isKind (c : Construct) : Kind → Bool
  | .await | .forOf true | .using true => c = .await
  | .metaProperty text => c = .importMeta && text = "import.meta"
  | _ => false

/-- Whether the construct counts inside of nodes of a kind. -/
def enters (c : Construct) : Kind → Bool
  | .function .. | .arrow _ | .constructor => c = .importMeta
  | _ => true

theorem isKind_neutral (c : Construct) {kind : Kind} (neutral : kind.isNeutral = true) :
    c.isKind kind = false := by
  unfold isKind
  split <;> first | cases neutral | rfl

/-- A construct as a trait. -/
def trait (c : Construct) : Trait where
  isKind kind _ := c.isKind kind
  isDeep := c = .importMeta
  isKind_neutral neutral _ := c.isKind_neutral neutral
  isKind_whole := id
  isKind_function _ _ := rfl
  isKind_unresolved _ := rfl
  isKind_name _ _ _ := rfl

theorem enters_eq (c : Construct) (kind : Kind) : c.trait.enters kind = c.enters kind := by
  unfold Trait.enters
  cases kind <;> first | exact Bool.or_true _ | exact Bool.or_false _

end Construct

namespace Node

variable {c : Construct}

mutual

/-- Whether a tree has a construct. -/
def has (c : Construct) : Node → Bool
  | mk kind _ parts => c.isKind kind || (c.enters kind && anyHas c parts)

def anyHas (c : Construct) : List Node → Bool
  | [] => false
  | n :: rest => n.has c || anyHas c rest

end

/-- A construct is in some of the trees, or in others. -/
theorem anyHas_split (p : Node → Bool) (ns : List Node) :
    anyHas c ns = (anyHas c (ns.filter p) || anyHas c (ns.filter (!p ·))) := by
  induction ns with
  | nil => rfl
  | cons n rest ih =>
    cases kept : p n with
    | true => simp [anyHas, kept, ih, Bool.or_assoc]
    | false => simp [anyHas, kept, ih, Bool.or_left_comm]

theorem hasTrait_eq : (∀ n, hasTrait c.trait n = has c n) ∧
    ∀ ns, anyHasTrait c.trait ns = anyHas c ns := by
  apply has.mutual_induct
  case case1 =>
    intro kind offset parts ih
    rw [hasTrait, has, ih, c.enters_eq]
    rfl
  case case2 => rfl
  case case3 =>
    intro n rest ihFirst ihRest
    rw [anyHasTrait, anyHas, ihFirst, ihRest]

theorem allLack_trait {ns : List Node} : AllLack c.trait ns ↔ anyHas c ns = false := by
  rw [allLack_iff, hasTrait_eq.2]

theorem anyHas_of_allLack {ns others : List Node} (lack : AllLack c.trait others → AllLack c.trait ns)
    (there : anyHas c ns = true) : anyHas c others = true := by
  cases missing : anyHas c others with
  | true => rfl
  | false =>
    rw [allLack_trait.mp (lack (allLack_trait.mpr missing))] at there
    cases there

/-- A node has only the constructs of its parts, apart from what it is itself. -/
theorem lacks_of_kind {kind : Kind} {offset offset' : Nat} {parts parts' : List Node}
    (lacks : Lacks c.trait (mk kind offset parts))
    (each : AllLack c.trait parts → AllLack c.trait parts') : Lacks c.trait (mk kind offset' parts') :=
  lacks_mk.mpr ⟨(lacks_mk.mp lacks).1, fun enters => each (lacks.inside enters)⟩

/-- Looking names up adds no construct. -/
theorem resolve_lacks :
    (∀ scopes n, Scopes.Gives (fun n' => Lacks c.trait n → Lacks c.trait n') (resolve scopes n)) ∧
    ∀ scopes ns, Scopes.Gives (fun ns' => AllLack c.trait ns → AllLack c.trait ns')
      (resolveAll scopes ns) := by
  refine resolve_gives (R := fun n n' => Lacks c.trait n → Lacks c.trait n')
    (Q := fun ns ns' => AllLack c.trait ns → AllLack c.trait ns') ⟨?_, ?_, id, ?_⟩
  · intro _ _ _ _ name mark offset types firsts _ each lacks
    exact lacks_mk.mpr ⟨rfl, fun enters => each (lacks.inside enters)⟩
  · intro _ kind _ offset parts firsts _ each lacks
    exact lacks_of_kind lacks each
  · intro _ n first _ rest firsts _ head tail lack
    rw [allLack_cons] at lack ⊢
    exact ⟨head lack.1, tail lack.2⟩

end Node

/-- Looking names up adds no construct to a module. -/
theorem Module.resolved_lacks {c : Construct} {m : Module} (lack : Node.AllLack c.trait m.items) :
    Node.AllLack c.trait m.resolved.items := by
  have gives : Scopes.Gives
      (fun ns => Node.AllLack c.trait m.items → Node.AllLack c.trait ns) (do
        let scopes ← Scopes.outermost.enterBody m.items
        Node.resolveAll scopes m.items) :=
    .bind (.any _) fun scopes _ => Node.resolve_lacks.2 scopes m.items
  exact gives 0 lack

end ScriptBundle.Script
