import ScriptBundle.Proofs.Rewriting.Running
import ScriptBundle.Proofs.Script.Survivors

/-! What links modules is gone after linking, and types that are erased afterwards do not bring it
back: only what was exported before becomes an export, and no other item stands for one under an
assertion about its type. -/
namespace ScriptBundle

namespace Script

/-- Whether an item of a kind is a statement by itself, and stays one when types are erased. -/
def Kind.isOrdinary : Kind → Bool
  | .import _ | .alias .. | .exportNames _ | .exportAll _ | .exportDeclaration | .exportDefault
  | .exportDefaultDeclaration | .exportAssignment | .exportAsNamespace | .cast => false
  | _ => true

theorem Kind.isDropped_of_isOrdinary {kind : Kind} (ordinary : kind.isOrdinary) :
    kind.isDropped = false := by
  cases kind <;> first | rfl | cases ordinary

namespace Node

theorem kind_withoutTypeAliases (n : Node) : n.withoutTypeAliases.kind = n.kind := by
  unfold withoutTypeAliases
  split <;> rfl

theorem kind_withoutTypes {n : Node} (ordinary : n.kind.isOrdinary) :
    n.withoutTypes.kind = n.kind := by
  unfold withoutTypes
  split
  case h_1 => cases ordinary
  all_goals rfl

end Node

namespace Lowering

variable (k : Knowledge)

theorem enumeration_ordinary (space : Option Symbol) (isExported : Bool) (enum : Symbol)
    (members : List Node) :
    ∀ n ∈ enumeration k space isExported enum members, n.kind.isOrdinary := by
  unfold enumeration
  dsimp only
  split
  · simp
  · exact List.forall_mem_singleton.mpr rfl

/-- What stands for an ordinary item is ordinary. -/
theorem lower_ordinary {n : Node} (ordinary : n.kind.isOrdinary) :
    ∀ n' ∈ lower k none n, n'.kind.isOrdinary := by
  unfold lower
  split
  case h_1 =>
    refine List.forall_mem_singleton.mpr ?_
    unfold Knowledge.exportedAs?
    split <;> rfl
  case h_2 =>
    dsimp only
    split
    · exact List.forall_mem_singleton.mpr rfl
    · split <;> exact List.forall_mem_singleton.mpr rfl
  case h_9 =>
    split
    · exact enumeration_ordinary k _ _ _ _
    · simp
  case h_10 =>
    split
    · exact List.forall_mem_singleton.mpr rfl
    · simp
  case h_11 | h_12 | h_13 | h_14 => cases ordinary
  case h_18 kind offset parts _ _ _ _ _ _ _ _ _ _ _ _ _ _ _ _ _ =>
    dsimp only
    split
    next value constant =>
      refine List.forall_mem_singleton.mpr ?_
      obtain ⟨place, -, known⟩ := Option.bind_eq_some_iff.mp constant
      have fixed := (Option.filter_eq_some_iff.mp known).2
      cases value <;> first | rfl | cases fixed
    next => exact List.forall_mem_singleton.mpr ordinary
  all_goals exact List.forall_mem_singleton.mpr rfl

theorem declareFirst_ordinary {n : Node} (ordinary : n.kind.isOrdinary) (before : List Node) :
    ∀ n' ∈ declareFirst none before n, n'.kind.isOrdinary := by
  unfold declareFirst
  split
  next => simp
  next name isExported filled =>
    have own : isExported = false := by
      unfold Node.filled? at filled
      split at filled
      case h_3 => cases ordinary
      case h_4 => cases filled
      all_goals
        obtain ⟨_, -, same⟩ := Option.map_eq_some_iff.mp filled
        exact (congrArg Prod.snd same).symm
    split
    · simp
    · rw [own]
      exact List.forall_mem_singleton.mpr rfl

theorem lowerList_ordinary {ns : List Node} (each : ∀ n ∈ ns, n.kind.isOrdinary)
    (before : List Node) : ∀ n ∈ lowerList k none before ns, n.kind.isOrdinary := by
  induction ns generalizing before with
  | nil => simp [lowerList]
  | cons n rest ih =>
    obtain ⟨first, others⟩ := List.forall_mem_cons.mp each
    rw [lowerList]
    exact List.forall_mem_append.mpr ⟨List.forall_mem_append.mpr
      ⟨declareFirst_ordinary first before, lower_ordinary k first⟩, ih others _⟩

/-- Ordinary items assign nothing to be all that a module exports. -/
theorem lowerItems_of_ordinary {items : List Node} (each : ∀ n ∈ items, n.kind.isOrdinary) :
    lowerItems items = lowerList (.ofItems items) none [] items := by
  have lowered := lowerList_ordinary (.ofItems items) each []
  have other : ∀ n ∈ lowerList (.ofItems items) none [] items,
      ¬(n.kind == .exportAssignment) = true := by
    intro n member assigned
    have ordinary := lowered n member
    rw [eq_of_beq assigned] at ordinary
    cases ordinary
  unfold lowerItems
  dsimp only
  rw [List.find?_eq_none.mpr other, Option.map_none, Option.toList_none, List.append_nil]
  exact List.filter_eq_self.mpr fun n member => by simpa using other n member

end Lowering

namespace Module

variable {m : Module} (each : ∀ n ∈ m.items, n.kind.isOrdinary)
include each

/-- Nothing drops ordinary items before types are erased. -/
theorem remains_of_ordinary :
    m.remains = Node.keptWithoutTypes (m.items.map Node.withoutTypeAliases) := by
  have kept : m.items.filterMap (fun n =>
      ((Usage.ofItems m.items).keep? n).map Node.withoutTypeAliases) =
        m.items.map Node.withoutTypeAliases := by
    refine List.filterMap_eq_map_iff_forall_eq_some.mpr fun n member => ?_
    rw [Usage.keep?_eq_some _ (Kind.isDropped_of_isOrdinary (each n member)), Option.map_some]
  rw [remains, kept]

theorem remains_ordinary : ∀ n ∈ m.remains, n.kind.isOrdinary := by
  rw [remains_of_ordinary each, Node.keptWithoutTypes_eq, List.forall_mem_map]
  intro n kept
  obtain ⟨item, member, rfl⟩ := List.mem_map.mp (List.mem_of_mem_filter kept)
  have same := item.kind_withoutTypeAliases
  rw [Node.kind_withoutTypes (same ▸ each item member), same]
  exact each item member

/-- A plain script is made of what is left of ordinary items, and needs no mark of a module. -/
theorem plain_of_ordinary :
    m.plain.items = Lowering.lowerList (.ofItems m.remains) none [] m.remains := by
  have unlinked : m.items.any Node.linksModules = false := by
    refine List.any_eq_false.mpr fun n member links => ?_
    have ordinary := each n member
    obtain ⟨kind, offset, parts⟩ := n
    cases kind <;> first | (cases ordinary; done) | cases links
  rw [← Lowering.lowerItems_of_ordinary (remains_ordinary each)]
  unfold plain
  simp only [unlinked, Bool.false_and, Bool.false_eq_true, if_false, List.append_nil]
  rfl

/-- A module of ordinary items has ordinary items when types are erased. -/
theorem plain_ordinary : ∀ n ∈ m.plain.items, n.kind.isOrdinary := by
  rw [plain_of_ordinary each]
  exact Lowering.lowerList_ordinary _ (remains_ordinary each) []

end Module

end Script

namespace Rewriting

open Script
open Node (IsKey IsName IsSpecifier IsImport IsExported IsDefault IsItem)

theorem importsOrExports_eq_false {n : Node} (ordinary : n.kind.isOrdinary) :
    importsOrExports n = false := by
  obtain ⟨kind, offset, parts⟩ := n
  cases kind <;> first | rfl | cases ordinary

theorem isOrdinary_of_statement {n : Node} (item : IsItem n) (statement : importsOrExports n = false) :
    n.kind.isOrdinary := by
  cases item with
  | ofImport shape =>
    cases shape
    cases statement
  | ofNames | ofValue | ofDefault => cases statement
  | ofOther shape =>
    obtain ⟨kind, offset, parts⟩ := n
    cases kind with
    | cast => simp [Node.isOther] at shape
    | _ => first | rfl | cases statement

theorem ImportForm.statements_ordinary (form : ImportForm) (identity : Identity) :
    ∀ n ∈ form.statements identity, n.kind.isOrdinary := by
  have taken (named : List ImportBinding) (source : Node) :
      ∀ n ∈ takeNames named source, n.kind.isOrdinary := by
    unfold takeNames
    split
    · simp
    · exact List.forall_mem_singleton.mpr rfl
  unfold statements
  split
  · simp
  · exact List.forall_mem_singleton.mpr rfl
  · exact List.forall_mem_cons.mpr ⟨rfl, taken _ _⟩
  · exact taken _ _

/-- An item becomes ordinary items. -/
theorem lowered_ordinary {n : Node} (item : IsItem n) (target : String → Identity)
    (types : List String) : ∀ n' ∈ lowered target types n, n'.kind.isOrdinary := by
  have becomes := becomes_lowered item target types
  generalize lowered target types n = left at becomes ⊢
  cases becomes with
  | nothing => exact List.forall_mem_nil _
  | importing => exact ImportForm.statements_ordinary _ _
  | names =>
    dsimp only [ExportForm.ofNames, ExportForm.statements]
    split
    · exact List.forall_mem_nil _
    · exact List.forall_mem_singleton.mpr rfl
  | value offset value => exact List.forall_mem_singleton.mpr rfl
  | declaration offset shape =>
    cases shape with
    | function place function known =>
      dsimp only [ExportForm.ofDefault]
      split
      · exact List.forall_mem_singleton.mpr rfl
      · exact List.forall_mem_cons.mpr ⟨rfl, List.forall_mem_singleton.mpr rfl⟩
    | «class» place body known =>
      dsimp only [ExportForm.ofDefault]
      split
      · exact List.forall_mem_singleton.mpr rfl
      · exact List.forall_mem_cons.mpr ⟨rfl, List.forall_mem_singleton.mpr rfl⟩
    | interface place parts => exact List.forall_mem_nil _
  | statement statement =>
    exact List.forall_mem_singleton.mpr (isOrdinary_of_statement item statement)

theorem linkedTo_ordinary {m : Module} (items : ∀ n ∈ m.items, IsItem n)
    (target : String → Identity) : ∀ n ∈ (linkedTo target m).items, n.kind.isOrdinary := by
  simp only [linkedTo, redirectedAll_eq, List.mem_map, List.mem_flatMap]
  rintro _ ⟨n', ⟨n, member, inside⟩, rfl⟩
  rw [kind_redirected]
  exact lowered_ordinary (items n member) target _ n' inside

end Rewriting

end ScriptBundle
