import ScriptBundle.Proofs.Rewriting.Traits
import ScriptBundle.Proofs.Script.Constructs

/-! Constructs of modules on their way into a bundle. Linking looks only at imports, exports and calls of
`require`: the code that it writes has no construct of modules, and what it leaves in place has those
that it had. So a linked module has one only where the source has it, and then it does have it, although
the bundle is a script. -/
namespace ScriptBundle.Rewriting

open Script
open Node (Lacks AllLack allLack_nil allLack_cons allLack_flatMap lacks_neutral IsKey IsName IsSpecifier
  IsImport IsExported IsDefault IsItem)

variable {c : Construct} {target : String → Identity} {types : List String}

/-! ### Calls -/

/-- A call that is redirected has only the constructs of its types, before and after. -/
theorem redirectedCall_has (n : Node) : (redirectedCall target n).has c = n.has c := by
  unfold redirectedCall
  split
  next specifier found =>
    obtain ⟨arguments, called, sole⟩ := Option.bind_eq_some_iff.mp found
    obtain ⟨offset, place, parts, rfl, rfl⟩ := requireArguments?_eq_some called
    obtain ⟨raw, place', sole⟩ := soleSpecifier?_eq_some sole
    have inside : Node.anyHas c parts = Node.anyHas c (parts.filter (·.isTypes)) := by
      rw [Node.anyHas_split (·.isTypes), sole]
      exact Bool.or_false _
    change Node.anyHas c (parts.filter (·.isTypes)) = Node.anyHas c parts
    exact inside.symm
  next => rfl

theorem redirected_has : (∀ n, (redirected target n).has c = n.has c) ∧
    ∀ ns, Node.anyHas c (redirectedAll target ns) = Node.anyHas c ns := by
  apply redirected.mutual_induct
  case case1 =>
    intro kind offset parts ih
    rw [redirected, redirectedCall_has, Node.has, Node.has, ih]
  case case2 => rfl
  case case3 =>
    intro n rest ihFirst ihRest
    rw [redirectedAll, Node.anyHas, Node.anyHas, ihFirst, ihRest]

example : (parseModule ⟨"/m.ts"⟩ "require('./a')(import.meta)").toOption.map (fun m =>
    Node.anyHas .importMeta (redirectedAll (fun _ => ⟨"/a.ts"⟩) m.resolved.items)) = some true := by
  decide +kernel

/-! ### Items -/

theorem lacks_name (name : String) (mark : Mark) : Lacks c.trait (.leaf (.identifier name mark)) :=
  Node.lacks_mk.mpr ⟨rfl, fun _ => allLack_nil⟩

/-- What an item becomes has the constructs of what the item leaves to be run. -/
theorem allLack_lowered {n : Node} (item : IsItem n) :
    AllLack c.trait (lowered target types n) ↔ AllLack c.trait (running n) := by
  have becomes := becomes_lowered item target types
  generalize lowered target types n = left at becomes ⊢
  cases becomes with
  | nothing idle => rw [idle]
  | importing idle specifier each =>
    exact iff_of_true ((lacks_written lacks_name).ofImport each _) (idle ▸ allLack_nil)
  | names idle each =>
    exact iff_of_true ((lacks_written lacks_name).ofNames each) (idle ▸ allLack_nil)
  | value offset value =>
    change AllLack c.trait [mergeExports [defaultProperty value]] ↔ AllLack c.trait [value]
    simp [lacks_default lacks_name]
  | declaration offset shape =>
    have declared {kind kind' : Kind} (neutral : kind.isNeutral) (neutral' : kind'.isNeutral)
        (place : Nat) {name : Node} (known : name = .absent ∨ IsName name) (body : Node) :
        AllLack c.trait (ExportForm.statements (if name.isAbsent
          then .defaultDeclaration none (.mk kind' place [name, body])
          else .defaultDeclaration (some (.mk kind place [name, body])) name)) ↔
        AllLack c.trait [.mk kind place [name, body]] := by
      have lacks : Lacks c.trait name :=
        known.elim (fun missing => missing ▸ Node.lacks_absent) (lacks_written lacks_name).name
      split
      · simp [ExportForm.statements, lacks_default lacks_name, lacks_neutral neutral,
          lacks_neutral neutral']
      · simp [ExportForm.statements, lacks_default lacks_name, lacks]
    cases shape with
    | function place function known => exact declared rfl rfl place known function
    | «class» place body known => exact declared rfl rfl place known body
    | interface place parts => exact Iff.rfl
  | statement statement => rw [running_of_statement statement]

/-- A linked module has the constructs of what the items of the module leave to be run. -/
theorem anyHas_linkedTo {m : Module} (items : ∀ n ∈ m.items, IsItem n) :
    Node.anyHas c (linkedTo target m).items = Node.anyHas c (m.items.flatMap running) := by
  rw [linkedTo, redirected_has.2, Bool.eq_iff_iff, ← not_iff_not, Bool.not_eq_true, Bool.not_eq_true,
    ← Node.allLack_trait, ← Node.allLack_trait, allLack_flatMap, allLack_flatMap]
  exact forall₂_congr fun n member => allLack_lowered (items n member)

theorem allLack_running {n : Node} (lacks : Lacks c.trait n) : AllLack c.trait (running n) := by
  unfold running
  split
  case h_4 =>
    split
    · exact allLack_nil
    · exact allLack_cons.mpr ⟨lacks, allLack_nil⟩
  all_goals exact (lacks_neutral rfl).mp lacks

/-- Linking is no check. What is left in a module that was linked has the constructs of modules that its
statements and its default export have, each as it was; erasing types adds none, so the script has
none that the source does not have. The first line of the source for the system that runs it stays the
first line of the script. Imports and exports are gone. -/
theorem link_constructs {path : Path} {source : String} {m : Module}
    (parsed : parseModule path source = .ok m) (disk : Disk) (importer : Path) (s : Session)
    {l : Module} {o : Outcome}
    (linked : (((link disk importer m.resolved).run {}).runFrom s).1 = .ok (l, o)) :
    l.plain.interpreter = m.interpreter ∧
    (∀ n ∈ l.plain.items, importsOrExports n = false) ∧
    (∀ c, Node.anyHas c l.items = Node.anyHas c (m.resolved.items.flatMap running)) ∧
    (∀ c, Node.anyHas c l.plain.items = true → Node.anyHas c l.items = true) ∧
    ∀ c, Node.anyHas c l.items = true → Node.anyHas c m.items = true := by
  obtain ⟨rfl, -⟩ := link_ok linked
  have shapes := Module.isItem_resolved (isItem_of_parsed parsed)
  have ordinary := linkedTo_ordinary shapes (answered (s.memo.answer disk importer))
  refine ⟨rfl, fun n member => importsOrExports_eq_false (Module.plain_ordinary ordinary n member),
    fun c => anyHas_linkedTo shapes, fun c => Node.anyHas_of_allLack Module.plain_lacks, fun c => ?_⟩
  rw [anyHas_linkedTo shapes]
  refine Node.anyHas_of_allLack fun lack => allLack_flatMap.mpr fun n member => ?_
  exact allLack_running (Module.resolved_lacks lack n member)

/-- A module with an import, and with an `await` in a function. -/
def waiting : String :=
  "import \x7b a \x7d from './a';\nasync function f() \x7b await a; \x7d\nexport \x7b f \x7d;"

/-- What the bundler adds can stand in a script. -/
theorem link_constructs_waiting : ∃ m l o, parseModule ⟨"/m.ts"⟩ waiting = .ok m ∧
    (((link lone ⟨"/m.ts"⟩ m.resolved).run {}).runFrom {}).1 = .ok (l, o) ∧
    l.plain.interpreter = none ∧ ∀ c, Node.anyHas c l.plain.items = false := by
  have facts : ∃ m ∈ (parseModule ⟨"/m.ts"⟩ waiting).toOption,
      ((((link lone ⟨"/m.ts"⟩ m.resolved).run {}).runFrom {}).1.toOption.isSome ∧
      m.interpreter = none ∧ Node.anyHas .await m.items = false ∧
      Node.anyHas .importMeta m.items = false) := by
    decide +kernel
  obtain ⟨m, parsed, done, fresh, noAwait, noMeta⟩ := facts
  obtain ⟨⟨l, o⟩, run⟩ := Option.isSome_iff_exists.mp done
  have parsed := mem_toOption.mp parsed
  have run := mem_toOption.mp run
  obtain ⟨interpreter, -, -, plain, source⟩ := link_constructs parsed lone ⟨"/m.ts"⟩ {} run
  refine ⟨m, l, o, parsed, run, interpreter.trans fresh, fun c => ?_⟩
  have clean : Node.anyHas c m.items = false := by
    cases c with
    | await => exact noAwait
    | importMeta => exact noMeta
  by_contra there
  have there := source c (plain c (by simpa using there))
  rw [clean] at there
  cases there

/-- A module with all that a script may not have is linked, and nothing of it is gone. -/
theorem link_keeps_constructs : ∃ m ∈ (parseModule ⟨"/m.ts"⟩
      "#!/usr/bin/env node\nawait load(import.meta.url);").toOption,
    ((((link lone ⟨"/m.ts"⟩ m.resolved).run {}).runFrom {}).1.toOption.map fun (l, _) =>
      (l.plain.interpreter, Node.anyHas .await l.plain.items, Node.anyHas .importMeta l.plain.items)) =
        some (some "/usr/bin/env node", true, true) := by
  decide +kernel

end ScriptBundle.Rewriting
