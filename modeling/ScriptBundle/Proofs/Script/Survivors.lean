import Mathlib.Data.List.Basic
import ScriptBundle.Script.Lowering

/-! What is left of a module when types are gone, and which names are those of values then. A plain
script is made of these items alone. -/
namespace ScriptBundle.Script

/-- Whether something is left of an item when types are gone. -/
def Usage.leaves (usage : Usage) (n : Node) : Bool :=
  ((usage.keep? n).map Node.withoutTypeAliases).any Node.isKept

/-- What is left of the items of a module when types are gone. -/
def Module.remains (m : Module) : List Node :=
  Node.keptWithoutTypes (m.items.filterMap fun n =>
    ((Usage.ofItems m.items).keep? n).map Node.withoutTypeAliases)

/-- The names that the items of a module bind to values, as far as something is left of the items when
types are gone. -/
def Module.survivors (m : Module) : List String :=
  (m.items.filter (Usage.ofItems m.items).leaves).flatMap Node.valueNames

/-- The names that the items of a module bind, to types or to values. -/
def Module.boundNames (m : Module) : List String :=
  m.items.flatMap fun n => n.typeNames ++ n.valueNames

theorem Node.allWithoutTypes_eq (ns : List Node) :
    allWithoutTypes ns = (ns.filter (!·.isTypes)).map withoutTypes := by
  induction ns with
  | nil => rfl
  | cons n rest ih =>
    rw [allWithoutTypes, ih]
    cases typed : n.isTypes <;> simp [typed]

theorem Node.keptWithoutTypes_eq (ns : List Node) :
    keptWithoutTypes ns = (ns.filter isKept).map withoutTypes := by
  induction ns with
  | nil => rfl
  | cons n rest ih =>
    rw [keptWithoutTypes, ih]
    cases kept : n.isKept <;> simp [kept]

/-- Whether an item of a kind may be dropped before types are erased. -/
def Kind.isDropped : Kind → Bool
  | .import _ | .exportNames _ | .exportAll _ | .exportDefault | .alias .. => true
  | _ => false

theorem Usage.keep?_eq_some (usage : Usage) {n : Node} (kept : n.kind.isDropped = false) :
    usage.keep? n = some n := by
  unfold keep?
  split
  case h_6 => rfl
  all_goals cases kept

end ScriptBundle.Script
