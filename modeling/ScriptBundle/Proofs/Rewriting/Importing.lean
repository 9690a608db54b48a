import ScriptBundle.Proofs.Rewriting.Calls
import ScriptBundle.Proofs.Rewriting.Exports
import ScriptBundle.Proofs.Script.Imports

/-! What the statements for an import do when they run. They call the dispatcher once and give each
name that the import binds its value: all that is exported, or one property of it. The dispatcher is
reached by its name, so this holds where the scope around the statements does not declare that name;
where it does, the name cannot be read yet. -/
namespace ScriptBundle.Rewriting

open Script
open Node (IsKey IsSpecifier IsImport)

/-- Why statements do not run to their end. -/
inductive Fault where
  /-- A constant was read before it had a value. -/
  | unassigned (name : String)
  | unbound (name : String)
  /-- A constant got a value twice. -/
  | rebound (name : String)
  /-- A statement is none of those that take names out of a value. -/
  | unknown
  deriving DecidableEq

/-- What values have: properties, and results when they are called with a text. -/
structure Behaviour (V : Type) where
  property : V → String → V
  call : V → String → V

/-- The scope that statements run in: the names it declares, and the values of names around it. -/
structure Surroundings (V : Type) where
  declared : List String
  outer : String → Option V

/-- How far statements have run: the constants that have values, and the calls that were made. -/
structure Progress (V : Type) where
  constants : List (String × V) := []
  calls : List (V × String) := []
  deriving DecidableEq

variable {V : Type} (behaviour : Behaviour V) (around : Surroundings V)

namespace Progress

def read (s : Progress V) (name : String) : Except Fault V :=
  if around.declared.contains name then
    match s.constants.lookup name with
    | some v => .ok v
    | none => .error (.unassigned name)
  else
    match around.outer name with
    | some v => .ok v
    | none => .error (.unbound name)

def assign (s : Progress V) (entry : String × V) : Except Fault (Progress V) :=
  match s.constants.lookup entry.1 with
  | some _ => .error (.rebound entry.1)
  | none => .ok { s with constants := s.constants ++ [entry] }

/-- The value of a name, or of a name that is called with a text. -/
def evaluate (s : Progress V) : Node → Except Fault (V × Progress V)
  | .mk (.identifier name _) _ _ => do return (← s.read around name, s)
  | .mk (.call false) _ [.mk (.identifier name _) _ _, .mk (.string text _) _ _] => do
    let function ← s.read around name
    return (behaviour.call function text, { s with calls := s.calls ++ [(function, text)] })
  | _ => .error .unknown

/-- Takes one part of a pattern out of a value. -/
def take (v : V) (s : Progress V) : Node → Except Fault (Progress V)
  | .mk .property _ [key, .mk (.identifier name _) _ _] =>
    match propertyName? key with
    | some property => s.assign (name, behaviour.property v property)
    | none => .error .unknown
  | .mk .shorthand _ [.mk (.identifier name _) _ _, .mk .absent _ _] =>
    s.assign (name, behaviour.property v name)
  | _ => .error .unknown

/-- Gives the constants of a pattern their values. -/
def bind (v : V) (s : Progress V) : Node → Except Fault (Progress V)
  | .mk (.identifier name _) _ _ => s.assign (name, v)
  | .mk .objectPattern _ parts => parts.foldlM (take behaviour v) s
  | _ => .error .unknown

/-- Runs a statement. -/
def run (s : Progress V) : Node → Except Fault (Progress V)
  | .mk .expression _ [value] => do
    let (_, s) ← s.evaluate behaviour around value
    return s
  | .mk (.variableList .const false) _ [.mk .declarator _ [pattern, value]] => do
    let (v, s) ← s.evaluate behaviour around value
    s.bind behaviour v pattern
  | _ => .error .unknown

def runAll (s : Progress V) (ns : List Node) : Except Fault (Progress V) :=
  ns.foldlM (run behaviour around) s

end Progress

/-- The constant that a specifier of an import stands for, when the import gives a value. -/
def importedConstant? (v : V) : Node → Option (String × V)
  | .mk .importDefault _ [name] => name.name?.map (·, behaviour.property v "default")
  | .mk .importNamespace _ [name] => name.name?.map (·, v)
  | .mk (.importNamed false) _ [imported, name] =>
    name.name?.map fun text => (text, behaviour.property v ((propertyName? imported).getD text))
  | _ => none

/-- The names that an import binds. -/
def specifiersOf : Node → List Node
  | .mk (.import _) _ (_ :: _ :: specifiers) => specifiers
  | _ => []

/-- Whether a specifier is for a type. -/
def isTypeSpecifier : Node → Bool
  | .mk (.importNamed true) _ _ => true
  | _ => false

section assigning

variable {behaviour} {around} {s : Progress V}

theorem Progress.assign_ok {entry : String × V} (new : s.constants.lookup entry.1 = none) :
    s.assign entry = .ok { s with constants := s.constants ++ [entry] } := by
  rw [assign, new]

/-- Constants get their values one after the other if their names are new and not repeated. -/
theorem Progress.foldlM_assign {entries : List (String × V)}
    (new : ∀ entry ∈ entries, s.constants.lookup entry.1 = none)
    (unique : (entries.map Prod.fst).Nodup) :
    entries.foldlM assign s = .ok { s with constants := s.constants ++ entries } := by
  induction entries generalizing s with
  | nil => simp; rfl
  | cons entry rest ih =>
    obtain ⟨first, others⟩ := List.forall_mem_cons.mp new
    obtain ⟨apart, unique⟩ := List.nodup_cons.mp unique
    rw [List.foldlM_cons, assign_ok first]
    change rest.foldlM assign { s with constants := s.constants ++ [entry] } = _
    rw [ih ?_ unique]
    · simp
    · intro other member
      have different : other.1 ≠ entry.1 := by
        intro same
        exact apart (same ▸ List.mem_map_of_mem member)
      rw [List.lookup_append, others other member]
      simp [different]

end assigning

section specifiers

variable {n : Node} (v : V)

/-- What a specifier binds that takes a property. -/
def named? (n : Node) : Option (String × V) :=
  if n.kind = .importNamespace then none else importedConstant? behaviour v n

/-- The part of the pattern for a specifier gives its constant its value. -/
theorem take_pattern (specifier : IsSpecifier n) {b : ImportBinding}
    (bound : importBinding? n = some b) : ∃ entry, named? behaviour v n = some entry ∧
      ∀ s : Progress V, s.take behaviour v b.pattern = s.assign entry := by
  cases specifier with
  | default offset place name mark =>
    cases bound
    exact ⟨_, rfl, fun s => rfl⟩
  | whole offset place name mark => cases bound
  | named isType offset place name mark known =>
    cases isType with
    | true => cases bound
    | false =>
      cases bound
      obtain rfl | ⟨text, place'⟩ | ⟨value, raw, place'⟩ := known
      · exact ⟨_, rfl, fun s => rfl⟩
      · refine ⟨_, rfl, fun s => ?_⟩
        have other : otherName? (.mk (.word text) place' []) (.mk (.identifier name mark) place []) =
            if some name = some text then none else some (.mk (.word text) place' []) := rfl
        rw [other]
        split_ifs with same
        · cases same
          rfl
        · rfl
      · exact ⟨_, rfl, fun s => rfl⟩

theorem named?_eq_none (specifier : IsSpecifier n) (unbound : importBinding? n = none) :
    named? behaviour v n = none := by
  cases specifier with
  | default offset place name mark => cases unbound
  | whole offset place name mark => rfl
  | named isType offset place name mark known =>
    cases isType with
    | true => rfl
    | false => cases unbound

/-- Taking all names out of a value gives the constants their values in the order of the list. -/
theorem bind_named {specifiers : List Node} (each : ∀ n ∈ specifiers, IsSpecifier n)
    (s : Progress V) : s.bind behaviour v (.mk .objectPattern 0
      ((specifiers.filterMap importBinding?).map ImportBinding.pattern)) =
        (specifiers.filterMap (named? behaviour v)).foldlM Progress.assign s := by
  rw [Progress.bind]
  induction specifiers generalizing s with
  | nil => rfl
  | cons n rest ih =>
    obtain ⟨first, others⟩ := List.forall_mem_cons.mp each
    cases bound : importBinding? n with
    | none =>
      rw [List.filterMap_cons_none bound,
        List.filterMap_cons_none (named?_eq_none behaviour v first bound)]
      exact ih others s
    | some b =>
      obtain ⟨entry, named, taken⟩ := take_pattern behaviour v first bound
      rw [List.filterMap_cons_some bound, List.filterMap_cons_some named, List.map_cons,
        List.foldlM_cons, List.foldlM_cons, taken]
      exact congrArg _ (funext fun s => ih others s)

/-- Without a name for all exports, every constant takes a property. -/
theorem importedConstants_eq {specifiers : List Node}
    (none : ∀ n ∈ specifiers, n.kind ≠ .importNamespace) :
    specifiers.filterMap (importedConstant? behaviour v) =
      specifiers.filterMap (named? behaviour v) :=
  List.filterMap_congr fun n member => (if_neg (none n member)).symm

/-- The name for all exports, if there is one. -/
def whole? : Node → Option Node
  | .mk .importNamespace _ [name] => some name
  | _ => none

theorem filterMap_whole?_eq_nil {specifiers : List Node}
    (none : ∀ n ∈ specifiers, n.kind ≠ .importNamespace) : specifiers.filterMap whole? = [] := by
  refine List.filterMap_eq_nil_iff.mpr fun n member => ?_
  unfold whole?
  split
  next => exact absurd rfl (none _ member)
  next => rfl

theorem wholeBinding?_eq (specifiers : List Node) :
    wholeBinding? specifiers = (specifiers.filterMap whole?).getLast? := rfl

/-- Beside the name for all exports no other one stands. -/
theorem others_of_whole {before after : List Node} {n : Node} (kind : n.kind = .importNamespace)
    (single : ((before ++ n :: after).map Node.kind).count .importNamespace ≤ 1) :
    (∀ n ∈ before, n.kind ≠ .importNamespace) ∧ ∀ n ∈ after, n.kind ≠ .importNamespace := by
  simp only [List.map_append, List.map_cons, List.count_append, kind, List.count_cons_self] at single
  have others (ns : List Node) (zero : (ns.map Node.kind).count .importNamespace = 0) :
      ∀ n ∈ ns, n.kind ≠ .importNamespace := by
    intro n member kind
    exact List.count_eq_zero.mp zero (kind ▸ List.mem_map_of_mem member)
  exact ⟨others before (by omega), others after (by omega)⟩

theorem wholeBinding?_append {before after : List Node} {n name : Node} (whole : whole? n = some name)
    (first : ∀ n ∈ before, n.kind ≠ .importNamespace)
    (last : ∀ n ∈ after, n.kind ≠ .importNamespace) :
    wholeBinding? (before ++ n :: after) = some name := by
  rw [wholeBinding?_eq, List.filterMap_append, filterMap_cons_eq, filterMap_whole?_eq_nil first,
    filterMap_whole?_eq_nil last, whole]
  rfl

/-- At most one constant is for all exports, and all others take a property. -/
theorem importedConstants_cases {specifiers : List Node} (each : ∀ n ∈ specifiers, IsSpecifier n)
    (single : (specifiers.map Node.kind).count .importNamespace ≤ 1) :
    (∀ n ∈ specifiers, n.kind ≠ .importNamespace) ∨
    ∃ name mark place, wholeBinding? specifiers = some (.mk (.identifier name mark) place []) ∧
      (specifiers.filterMap (importedConstant? behaviour v)).Perm
        ((name, v) :: specifiers.filterMap (named? behaviour v)) := by
  by_cases some : ∃ n ∈ specifiers, n.kind = .importNamespace
  · right
    obtain ⟨n, member, kind⟩ := some
    obtain ⟨before, after, rfl⟩ := List.append_of_mem member
    obtain ⟨first, last⟩ := others_of_whole kind single
    cases each n member with
    | whole offset place name mark =>
      refine ⟨name, mark, place, wholeBinding?_append rfl first last, ?_⟩
      rw [List.filterMap_append, filterMap_cons_eq, importedConstants_eq behaviour v first,
        importedConstants_eq behaviour v last, List.filterMap_append,
        filterMap_cons_eq (named? behaviour v)]
      exact List.perm_middle
    | default | named => cases kind
  · exact .inl fun n member kind => some ⟨n, member, kind⟩

/-- The names of the constants are among those that the import binds. -/
theorem importedConstants_sublist {specifiers : List Node} (each : ∀ n ∈ specifiers, IsSpecifier n) :
    ((specifiers.filterMap (importedConstant? behaviour v)).map Prod.fst).Sublist
      (Node.boundNamesOfAll specifiers) := by
  induction specifiers with
  | nil => exact .slnil
  | cons n rest ih =>
    obtain ⟨first, others⟩ := List.forall_mem_cons.mp each
    have names : Node.boundNamesOfAll (n :: rest) = n.boundNames ++ Node.boundNamesOfAll rest := by
      simp [Node.boundNamesOfAll, Node.boundSymbolsOfAll, Node.boundNames]
    rw [filterMap_cons_eq, List.map_append, names]
    refine .append ?_ (ih others)
    cases first with
    | default | whole => exact .refl _
    | named isType =>
      cases isType with
      | true => exact List.nil_sublist _
      | false => exact .refl _

end specifiers

section running

variable {behaviour} {around} {function : V}

theorem evaluate_dispatch (free : dispatcher ∉ around.declared)
    (known : around.outer dispatcher = some function) (identity : Identity) (s : Progress V) :
    s.evaluate behaviour around (dispatch identity) =
      .ok (behaviour.call function identity.text,
        { s with calls := s.calls ++ [(function, identity.text)] }) := by
  have read : s.read around dispatcher = .ok function := by
    have outside : around.declared.contains dispatcher = false := by simpa using free
    rw [Progress.read, outside, known]
    rfl
  have call : s.evaluate behaviour around (dispatch identity) = (do
      let function ← s.read around dispatcher
      return (behaviour.call function identity.text,
        { s with calls := s.calls ++ [(function, identity.text)] })) := rfl
  rw [call, read]
  rfl

theorem evaluate_constant {name : String} {v : V} (declared : name ∈ around.declared)
    {s : Progress V} (known : s.constants.lookup name = some v) (mark : Mark) (place : Nat) :
    s.evaluate behaviour around (.mk (.identifier name mark) place []) = .ok (v, s) := by
  have inside : around.declared.contains name = true := by simpa using declared
  rw [Progress.evaluate, Progress.read, inside, known]
  rfl

theorem run_constant {value pattern : Node} {v : V} {s s' : Progress V}
    (evaluated : s.evaluate behaviour around value = .ok (v, s')) :
    s.run behaviour around (constant pattern value) = s'.bind behaviour v pattern := by
  have run : s.run behaviour around (constant pattern value) = (do
      let (v, s) ← s.evaluate behaviour around value
      s.bind behaviour v pattern) := rfl
  rw [run, evaluated]
  rfl

/-- Taking names out of a value, which is looked at only if there are names. -/
theorem runAll_takeNames {specifiers : List Node} (each : ∀ n ∈ specifiers, IsSpecifier n)
    {source : Node} {v : V} {s s' : Progress V}
    (evaluated : s.evaluate behaviour around source = .ok (v, s'))
    (looked : specifiers.filterMap importBinding? ≠ [] ∨ s' = s)
    (new : ∀ entry ∈ specifiers.filterMap (named? behaviour v), s'.constants.lookup entry.1 = none)
    (unique : ((specifiers.filterMap (named? behaviour v)).map Prod.fst).Nodup) :
    s.runAll behaviour around (ImportForm.takeNames (specifiers.filterMap importBinding?) source) =
      .ok { s' with constants := s'.constants ++ specifiers.filterMap (named? behaviour v) } := by
  unfold ImportForm.takeNames
  split
  next empty =>
    have empty := List.isEmpty_iff.mp empty
    obtain rfl : s' = s := looked.resolve_left (· empty)
    have none : specifiers.filterMap (named? behaviour v) = [] :=
      List.filterMap_eq_nil_iff.mpr fun n member =>
        named?_eq_none behaviour v (each n member) (List.filterMap_eq_nil_iff.mp empty n member)
    rw [none, List.append_nil]
    rfl
  next =>
    rw [Progress.runAll, List.foldlM_cons, run_constant evaluated, bind_named behaviour v each,
      Progress.foldlM_assign new unique]
    rfl

theorem run_statement {value : Node} {v : V} {s s' : Progress V}
    (evaluated : s.evaluate behaviour around value = .ok (v, s')) :
    s.run behaviour around (Node.statement value) = .ok s' := by
  have run : s.run behaviour around (Node.statement value) = (do
      let (_, s) ← s.evaluate behaviour around value
      return s) := rfl
  rw [run, evaluated]
  rfl

theorem importBinding?_ne_none {n : Node} (specifier : IsSpecifier n)
    (part : n.kind ≠ .importNamespace) (value : ¬isTypeSpecifier n) : importBinding? n ≠ none := by
  cases specifier with
  | default => nofun
  | whole => exact absurd rfl part
  | named isType =>
    cases isType with
    | true => exact absurd rfl value
    | false => nofun

/-- An import with a specifier that is not for a type binds something. -/
theorem binds_of_value {specifiers : List Node} (each : ∀ n ∈ specifiers, IsSpecifier n)
    (value : ∃ n ∈ specifiers, ¬isTypeSpecifier n) :
    ¬((wholeBinding? specifiers).isNone && (specifiers.filterMap importBinding?).isEmpty) = true := by
  obtain ⟨n, member, value⟩ := value
  rw [Bool.and_eq_true, Option.isNone_iff_eq_none, List.isEmpty_iff, wholeBinding?_eq,
    List.getLast?_eq_none_iff]
  rintro ⟨noWhole, noNames⟩
  refine importBinding?_ne_none (each n member) (fun kind => ?_) value
    (List.filterMap_eq_nil_iff.mp noNames n member)
  have none := List.filterMap_eq_nil_iff.mp noWhole n member
  cases each n member with
  | whole => cases none
  | default | named => cases kind

/-- The statements for an import call the dispatcher once and give its constants their values. -/
theorem runAll_statements (free : dispatcher ∉ around.declared)
    (known : around.outer dispatcher = some function) (identity : Identity) (specifier : String)
    {specifiers : List Node} (each : ∀ n ∈ specifiers, IsSpecifier n)
    (single : (specifiers.map Node.kind).count .importNamespace ≤ 1)
    (left : specifiers = [] ∨ ∃ n ∈ specifiers, ¬isTypeSpecifier n)
    (unique : (Node.boundNamesOfAll specifiers).Nodup)
    (declared : Node.boundNamesOfAll specifiers ⊆ around.declared) {s : Progress V}
    (new : ∀ name ∈ Node.boundNamesOfAll specifiers, s.constants.lookup name = none) :
    ∃ constants, constants.Perm
        (specifiers.filterMap (importedConstant? behaviour (behaviour.call function identity.text))) ∧
      s.runAll behaviour around ((ImportForm.ofParts specifier specifiers).statements identity) =
        .ok ⟨s.constants ++ constants, s.calls ++ [(function, identity.text)]⟩ := by
  have called : s.evaluate behaviour around (dispatch identity) = _ :=
    evaluate_dispatch free known identity s
  generalize behaviour.call function identity.text = v at called ⊢
  have names := importedConstants_sublist behaviour v each
  have fresh (entries : List (String × V))
      (perm : (specifiers.filterMap (importedConstant? behaviour v)).Perm entries) :
      (entries.map Prod.fst).Nodup ∧ ∀ entry ∈ entries, entry.1 ∈ Node.boundNamesOfAll specifiers :=
    ⟨(perm.map _).nodup_iff.mp (unique.sublist names),
      fun entry member => names.subset (List.mem_map_of_mem (perm.mem_iff.mpr member))⟩
  unfold ImportForm.ofParts
  split
  next empty =>
    obtain rfl := List.isEmpty_iff.mp empty
    refine ⟨[], .refl _, ?_⟩
    rw [ImportForm.statements, Progress.runAll, List.foldlM_cons, run_statement called,
      List.append_nil]
    rfl
  next several =>
    have binds := binds_of_value each (left.resolve_left fun empty => several (by rw [empty]; rfl))
    dsimp only
    rw [if_neg binds]
    obtain parts | ⟨name, mark, place, whole, perm⟩ := importedConstants_cases behaviour v each single
    · have whole : wholeBinding? specifiers = none := by
        rw [wholeBinding?_eq, filterMap_whole?_eq_nil parts]
        rfl
      have named : specifiers.filterMap importBinding? ≠ [] := by
        simpa [whole] using binds
      have same := importedConstants_eq behaviour v parts
      obtain ⟨unique, known⟩ := fresh _ (.of_eq same)
      rw [whole]
      refine ⟨_, .of_eq same.symm, ?_⟩
      exact runAll_takeNames each called (.inl named)
        (fun entry member => new _ (known entry member)) unique
    · obtain ⟨unique, known⟩ := fresh _ perm
      rw [whole]
      refine ⟨_, perm.symm, ?_⟩
      obtain ⟨present, known⟩ := List.forall_mem_cons.mp known
      obtain ⟨apart, unique⟩ := List.nodup_cons.mp unique
      -- The constant for all exports has its value when properties are taken out of it.
      have first : s.run behaviour around (constant (.mk (.identifier name mark) place [])
          (dispatch identity)) =
          .ok ⟨s.constants ++ [(name, v)], s.calls ++ [(function, identity.text)]⟩ :=
        (run_constant called).trans (Progress.assign_ok (new name present))
      have lookup : (s.constants ++ [(name, v)]).lookup name = some v := by
        rw [List.lookup_append, new name present]
        simp
      have read : Progress.evaluate behaviour around ⟨s.constants ++ [(name, v)],
          s.calls ++ [(function, identity.text)]⟩ (.mk (.identifier name mark) place []) = _ :=
        evaluate_constant (declared present) lookup mark place
      have taken := runAll_takeNames each read (.inr rfl)
        (fun entry member => by
          have different : entry.1 ≠ name := by
            intro same
            exact apart (List.mem_map.mpr ⟨entry, member, same⟩)
          rw [List.lookup_append, new _ (known entry member)]
          simp [different]) unique
      rw [ImportForm.statements, Progress.runAll, List.foldlM_cons, first]
      refine taken.trans ?_
      rw [List.append_assoc]
      rfl

end running

section lowering

variable {disk : Disk} {importer : Path}

theorem lowerItem_alone {form : ImportForm} {specifier : String}
    (needs : form.specifier? = some specifier) (o : Outcome) :
    ((lowerItem disk importer (.importing form)).run o).alone =
      (Resolution.answer disk specifier importer).map fun identity =>
        (form.statements identity, o.refer identity) := by
  have asks : Performs disk importer (Resolution.answer disk · importer)
    (lowerItem disk importer (.importing form)) _ _ := lowerImport_performs needs
  refine (asks.result o {} rfl).trans ?_
  rw [perform_refer]
  cases found : Resolution.answer disk specifier importer <;>
    simp [answered, found, Except.map, Except.toOption]

/-- The text that says where an import comes from. -/
def importSource : Node → String
  | .mk (.import _) _ (.mk (.string specifier _) _ _ :: _) => specifier
  | _ => ""

theorem specifier?_ofParts {specifier : String} {specifiers : List Node}
    (each : ∀ n ∈ specifiers, IsSpecifier n)
    (left : specifiers = [] ∨ ∃ n ∈ specifiers, ¬isTypeSpecifier n) :
    (ImportForm.ofParts specifier specifiers).specifier? = some specifier := by
  unfold ImportForm.ofParts
  split
  next => rfl
  next several =>
    dsimp only
    rw [if_neg (binds_of_value each (left.resolve_left fun empty => several (by rw [empty]; rfl)))]
    rfl

section redirecting

variable (answers : String → Identity)

theorem redirected_pattern {n : Node} (specifier : IsSpecifier n) {b : ImportBinding}
    (bound : importBinding? n = some b) : redirected answers b.pattern = b.pattern := by
  cases specifier with
  | default => cases bound; rfl
  | whole => cases bound
  | named isType offset place name mark known =>
    cases isType with
    | true => cases bound
    | false =>
      cases bound
      obtain rfl | known := known
      · rfl
      · cases other : otherName? _ (.mk (.identifier name mark) place []) with
        | none => rfl
        | some key =>
          rw [otherName?_eq other]
          cases known <;> rfl

theorem redirected_constant {pattern value : Node} (first : redirected answers pattern = pattern)
    (second : redirected answers value = value) :
    redirected answers (constant pattern value) = constant pattern value := by
  rw [constant, Node.declaration, redirected_mk (by simp), redirectedAll_eq, List.map_singleton,
    redirected_mk (by simp), redirectedAll_eq, List.map_cons, List.map_singleton, first, second]

/-- Redirecting calls of `require` changes nothing in the statements for an import. -/
theorem redirectedAll_statements {specifier : String} {specifiers : List Node}
    (each : ∀ n ∈ specifiers, IsSpecifier n) (identity : Identity) :
    redirectedAll answers ((ImportForm.ofParts specifier specifiers).statements identity) =
      (ImportForm.ofParts specifier specifiers).statements identity := by
  have patterns : ((specifiers.filterMap importBinding?).map ImportBinding.pattern).map
      (redirected answers) = (specifiers.filterMap importBinding?).map ImportBinding.pattern := by
    rw [List.map_map]
    refine List.map_congr_left fun b member => ?_
    obtain ⟨n, present, bound⟩ := List.mem_filterMap.mp member
    exact redirected_pattern answers (each n present) bound
  have taken {source : Node} (same : redirected answers source = source) :
      redirectedAll answers (ImportForm.takeNames (specifiers.filterMap importBinding?) source) =
        ImportForm.takeNames (specifiers.filterMap importBinding?) source := by
    unfold ImportForm.takeNames
    split
    · rfl
    · rw [redirectedAll, redirectedAll, redirected_constant answers _ same]
      rw [redirected_mk (by simp), redirectedAll_eq, patterns]
  unfold ImportForm.ofParts
  split
  next => rfl
  next =>
    dsimp only
    split
    next => rfl
    next =>
      cases whole : wholeBinding? specifiers with
      | none => exact taken rfl
      | some name =>
        obtain ⟨n, member, bound⟩ := List.mem_filterMap.mp (List.mem_of_getLast? whole)
        have same : redirected answers name = name := by
          cases each n member with
          | whole => cases bound; rfl
          | default | named => cases bound
        rw [ImportForm.statements, redirectedAll, redirected_constant answers same rfl, taken same]

end redirecting

/-- The items of a module that was parsed have their shapes. -/
theorem isItem_of_parsed {path : Path} {source : String} {m : Module}
    (parsed : parseModule path source = .ok m) : ∀ n ∈ m.items, Node.IsItem n := by
  refine Module.isItem_ofSource (?_ : Module.ofSource source = .ok m)
  unfold parseModule at parsed
  cases read : Module.ofSource source with
  | error complaint =>
    rw [read] at parsed
    cases parsed
  | ok m' =>
    rw [read] at parsed
    cases parsed
    rfl

theorem isImport_of_parsed {path : Path} {source : String} {m : Module}
    (parsed : parseModule path source = .ok m) : ∀ n ∈ m.resolved.items, n.isImport → IsImport n :=
  fun n member => (Module.isItem_resolved (isItem_of_parsed parsed) n member).isImport

/-- The statements for an import that is not only about types call the dispatcher once. Where the
scope that they run in does not declare the name of the dispatcher, they give exactly the names that
the import binds, apart from those of types, their values: all exports of the module, or the export
with the name on the other side. -/
theorem lowerItems_import {path : Path} {source : String} {m : Module} {n : Node}
    (parsed : parseModule path source = .ok m) (member : n ∈ m.resolved.items)
    (kind : n.kind = .import false)
    (left : specifiersOf n = [] ∨ ∃ specifier ∈ specifiersOf n, ¬isTypeSpecifier specifier)
    (unique : (Node.boundNamesOfAll (specifiersOf n)).Nodup) {identity : Identity}
    (found : Resolution.answer disk (importSource n) importer = .ok identity) :
    ∃ statements,
      (∀ types o, ((lowerItems disk importer types [n]).run o).alone =
        .ok (statements, o.refer identity)) ∧
      (∀ answers, redirectedAll answers statements = statements) ∧
      dispatchesOfAll statements = [[Node.text identity.text]] ∧
      ∀ (V : Type) (behaviour : Behaviour V) (around : Surroundings V) (function : V)
        (s : Progress V), dispatcher ∉ around.declared →
        around.outer dispatcher = some function →
        Node.boundNamesOfAll (specifiersOf n) ⊆ around.declared →
        (∀ name ∈ Node.boundNamesOfAll (specifiersOf n), s.constants.lookup name = none) →
        ∃ constants, constants.Perm ((specifiersOf n).filterMap
            (importedConstant? behaviour (behaviour.call function identity.text))) ∧
          s.runAll behaviour around statements =
            .ok ⟨s.constants ++ constants, s.calls ++ [(function, identity.text)]⟩ := by
  have shape : IsImport n := isImport_of_parsed parsed n member (by
    obtain ⟨_, offset, parts⟩ := n
    obtain rfl : _ = Kind.import false := kind
    rfl)
  cases shape with
  | mk isTypeOnly offset specifier raw place parts attributes specifiers each single =>
    obtain rfl : isTypeOnly = false := by simpa [Node.kind] using kind
    have needs : (ImportForm.ofParts specifier specifiers).specifier? = some specifier :=
      specifier?_ofParts each left
    have lowers (types : List String) : lowerItems disk importer types
        [.mk (.import false) offset (.mk (.string specifier raw) place parts :: attributes ::
          specifiers)] = (do
        return (← lowerItem disk importer (.importing (.ofParts specifier specifiers))) ++ []) := rfl
    have quiet : dispatchesOfAll specifiers = [] := by
      have none := dispatchesOfAll_eq_nil.mp (dispatches_marked.2 _ m.allMarked_resolved) _ member
      rw [dispatches_mk (by simp), dispatchesOfAll_cons, dispatchesOfAll_cons] at none
      exact (List.append_eq_nil_iff.mp (List.append_eq_nil_iff.mp none).2).2
    refine ⟨(ImportForm.ofParts specifier specifiers).statements identity, fun types o => ?_,
      fun answers => redirectedAll_statements answers each identity, ?_,
      fun V behaviour around function s free known declared new =>
        runAll_statements free known identity specifier each single left unique declared new⟩
    · have steady : Steady disk
          (lowerItem disk importer (.importing (.ofParts specifier specifiers))) :=
        (Steady.sideBySide disk importer).lowerItem _
      have rest (lowered : List Node × Outcome) :
          ScriptBundle.Steady disk ((pure (lowered.1 ++ []) : Rewrite (List Node)).run lowered.2) :=
        Steady.pure _ _
      rw [lowers, StateT.run_bind, (steady o).alone_bind rest, lowerItem_alone needs]
      change Resolution.answer disk specifier importer = .ok identity at found
      rw [found]
      change Except.ok (_ ++ [], _) = _
      rw [List.append_nil]
    · exact ImportForm.dispatches_statements quiet needs identity

end lowering

/-- Values told apart by how they came about. -/
def texts : Behaviour String where
  property v name := v ++ "." ++ name
  call v text := v ++ "(" ++ text ++ ")"

/-- A scope that declares some names, in a program with a dispatcher. -/
def scopeOf (declared : List String) : Surroundings String where
  declared := declared
  outer name := if name = dispatcher then some dispatcher else none

/-- An import of the default, of names that are renamed or spelt as strings, and of a type. -/
def importing : String := "import d, \x7b a as b, 'c d' as e, type T, f \x7d from './a';"

theorem lowerItems_import_mixed : ∃ m n statements constants,
    parseModule ⟨"/m.ts"⟩ importing = .ok m ∧ n ∈ m.resolved.items ∧
    Node.boundNamesOfAll (specifiersOf n) = ["d", "b", "e", "T", "f"] ∧
    ((lowerItems lone ⟨"/m.ts"⟩ [] [n]).run {}).alone =
      .ok (statements, { dependencies := [⟨"/a.ts"⟩] }) ∧
    Progress.runAll texts (scopeOf ["d", "b", "e", "T", "f"]) {} statements =
      .ok ⟨constants, [("_dep", "/a.ts")]⟩ ∧
    constants.Perm [("d", "_dep(/a.ts).default"), ("b", "_dep(/a.ts).a"),
      ("e", "_dep(/a.ts).c d"), ("f", "_dep(/a.ts).f")] := by
  have facts : ∃ m ∈ (parseModule ⟨"/m.ts"⟩ importing).toOption, ∃ n ∈ m.resolved.items,
      n.kind = .import false ∧ Node.boundNamesOfAll (specifiersOf n) = ["d", "b", "e", "T", "f"] ∧
      (∃ specifier ∈ specifiersOf n, ¬isTypeSpecifier specifier) ∧
      (Resolution.answer lone (importSource n) ⟨"/m.ts"⟩).toOption = some ⟨"/a.ts"⟩ ∧
      (specifiersOf n).filterMap (importedConstant? texts (texts.call dispatcher "/a.ts")) =
        [("d", "_dep(/a.ts).default"), ("b", "_dep(/a.ts).a"), ("e", "_dep(/a.ts).c d"),
          ("f", "_dep(/a.ts).f")] := by
    decide +kernel
  obtain ⟨m, parsed, n, member, kind, names, value, found, known⟩ := facts
  have parsed := mem_toOption.mp parsed
  obtain ⟨statements, lowers, -, -, runs⟩ := lowerItems_import parsed member kind (.inr value)
    (by rw [names]; decide) (mem_toOption.mp found)
  obtain ⟨constants, perm, run⟩ := runs String texts (scopeOf ["d", "b", "e", "T", "f"]) dispatcher {}
    (by decide) rfl (by rw [names]; exact List.Subset.refl _) (fun _ _ => rfl)
  exact ⟨m, n, statements, constants, parsed, member, names, lowers [] {}, run, known ▸ perm⟩

/-- The name of the dispatcher cannot be read yet where an import binds it. -/
theorem import_captures : ∃ m ∈ (parseModule ⟨"/m.ts"⟩ "import { _dep } from './a';").toOption,
    ∃ n ∈ m.resolved.items, n.kind = .import false ∧
      Node.boundNamesOfAll (specifiersOf n) = [dispatcher] ∧
      (∃ specifier ∈ specifiersOf n, ¬isTypeSpecifier specifier) ∧
      (((lowerItems lone ⟨"/m.ts"⟩ [] [n]).run {}).alone.toOption.map fun lowered =>
        Progress.runAll texts (scopeOf [dispatcher]) {} lowered.1) =
          some (.error (.unassigned dispatcher)) := by
  decide +kernel

end ScriptBundle.Rewriting
