import ScriptBundle.Script.Enumeration

/-! Traits of trees: that a construct is in them, that a name occurs, that a function has no body. A node
has a trait by its kind, and a function maybe because of a part that is missing. Some traits count in the
whole tree and others only outside of functions. -/
namespace ScriptBundle.Script

/-- Whether nodes of a kind have no trait, and whether what is inside of them counts for every trait. -/
def Kind.isNeutral : Kind → Bool
  | .identifier .. | .await | .forOf true | .using true | .metaProperty _ | .function .. | .arrow _
  | .constructor => false
  | _ => true

/-- Whether nodes of a kind are functions, or what is in the place of one. -/
def Kind.isFunction : Kind → Bool
  | .function .. | .arrow _ | .constructor => true
  | _ => false

/-- Whether nodes of a kind may be the parameters or the body of a function, or its types. -/
def Kind.isFunctionPart : Kind → Bool
  | .parameters | .block | .types _ => true
  | _ => false

/-- A trait that the nodes of a tree may have. Names that no declaration binds do not have it, and neither
do whole functions. A trait that names have counts inside of functions too. -/
structure Trait where
  /-- Whether nodes of a kind have the trait, where it counts. The flag says whether they have no other
  parts than a function has: parameters, a body and types. -/
  isKind (kind : Kind) (isWhole : Bool) : Bool
  /-- Whether the trait counts inside of functions. -/
  isDeep : Bool
  isKind_neutral {kind : Kind} (neutral : kind.isNeutral = true) (isWhole : Bool) :
    isKind kind isWhole = false
  isKind_whole {kind : Kind} (lacks : isKind kind false = false) : isKind kind true = false
  isKind_function (isAsync isGenerator : Bool) : isKind (.function isAsync isGenerator) true = false
  isKind_unresolved (name : String) : isKind (.identifier name .unresolved) true = false
  isKind_name (shallow : isDeep = false) (name : String) (mark : Mark) :
    isKind (.identifier name mark) true = false

namespace Trait

variable {t : Trait} {kind : Kind}

/-- Whether a trait counts inside of nodes of a kind. -/
def enters (t : Trait) (kind : Kind) : Bool := t.isDeep || !kind.isFunction

theorem enters_neutral (neutral : kind.isNeutral = true) : t.enters kind = true := by
  cases kind <;> first | exact Bool.or_true _ | cases neutral

theorem enters_all (deep : t.isDeep = true) (kind : Kind) : t.enters kind = true := by
  rw [enters, deep, Bool.true_or]

theorem isDeep_of_enters (function : kind.isFunction = true) (inside : t.enters kind = true) :
    t.isDeep = true := by
  rwa [enters, function, Bool.not_true, Bool.or_false] at inside

end Trait

namespace Node

def isFunctionPart (n : Node) : Bool := n.kind.isFunctionPart

mutual

/-- Whether a tree has a trait. -/
def hasTrait (t : Trait) : Node → Bool
  | mk kind _ parts =>
    t.isKind kind (parts.all isFunctionPart) || (t.enters kind && anyHasTrait t parts)

def anyHasTrait (t : Trait) : List Node → Bool
  | [] => false
  | n :: rest => n.hasTrait t || anyHasTrait t rest

end

variable {t : Trait}

/-- Whether a trait is missing in a tree. -/
def Lacks (t : Trait) (n : Node) : Prop := n.hasTrait t = false

/-- Whether a trait is missing in all trees of a list. -/
def AllLack (t : Trait) (ns : List Node) : Prop := ∀ n ∈ ns, n.Lacks t

@[simp] theorem allLack_nil : AllLack t [] := by simp [AllLack]

@[simp] theorem allLack_cons {n : Node} {ns : List Node} :
    AllLack t (n :: ns) ↔ n.Lacks t ∧ AllLack t ns := List.forall_mem_cons

@[simp] theorem allLack_append {ns others : List Node} :
    AllLack t (ns ++ others) ↔ AllLack t ns ∧ AllLack t others := List.forall_mem_append

theorem allLack_flatMap {α : Type} {f : α → List Node} {as : List α} :
    AllLack t (as.flatMap f) ↔ ∀ a ∈ as, AllLack t (f a) := by
  simp only [AllLack, List.mem_flatMap]
  exact ⟨fun lack n member part inside => lack part ⟨n, member, inside⟩,
    fun lack part ⟨n, member, inside⟩ => lack n member part inside⟩

theorem AllLack.filter {ns : List Node} (lack : AllLack t ns) (p : Node → Bool) :
    AllLack t (ns.filter p) := fun n member => lack n (List.mem_filter.mp member).1

theorem allLack_iff {ns : List Node} : AllLack t ns ↔ anyHasTrait t ns = false := by
  induction ns with
  | nil => simp [anyHasTrait]
  | cons n rest ih => rw [allLack_cons, ih, anyHasTrait, Bool.or_eq_false_iff, Lacks]

variable {kind : Kind} {offset offset' : Nat} {parts parts' : List Node}

theorem lacks_mk : Lacks t (mk kind offset parts) ↔
    t.isKind kind (parts.all isFunctionPart) = false ∧ (t.enters kind = true → AllLack t parts) := by
  rw [Lacks, hasTrait, Bool.or_eq_false_iff, Bool.and_eq_false_imp, allLack_iff]

theorem lacks_neutral (neutral : kind.isNeutral = true) :
    Lacks t (mk kind offset parts) ↔ AllLack t parts := by
  rw [lacks_mk, t.isKind_neutral neutral, Trait.enters_neutral neutral]
  simp

theorem lacks_leaf (neutral : kind.isNeutral = true) : Lacks t (leaf kind) :=
  (lacks_neutral neutral).mpr allLack_nil

theorem lacks_single (neutral : kind.isNeutral = true) {n : Node} :
    Lacks t (mk kind offset [n]) ↔ Lacks t n := by
  simp [lacks_neutral neutral]

theorem lacks_pair (neutral : kind.isNeutral = true) {n n' : Node} :
    Lacks t (mk kind offset [n, n']) ↔ Lacks t n ∧ Lacks t n' := by
  simp [lacks_neutral neutral]

theorem lacks_cons (neutral : kind.isNeutral = true) {n : Node} :
    Lacks t (mk kind offset (n :: parts)) ↔ Lacks t n ∧ AllLack t parts := by
  rw [lacks_neutral neutral, allLack_cons]

theorem Lacks.inside (lacks : Lacks t (.mk kind offset parts)) (enters : t.enters kind = true) :
    AllLack t parts := (lacks_mk.mp lacks).2 enters

/-- A node lacks a trait as long as its parts do and remain what a function is made of. -/
theorem Lacks.with (lacks : Lacks t (.mk kind offset parts))
    (each : AllLack t parts → AllLack t parts')
    (whole : parts.all isFunctionPart → parts'.all isFunctionPart) :
    Lacks t (.mk kind offset' parts') := by
  obtain ⟨known, inside⟩ := lacks_mk.mp lacks
  refine lacks_mk.mpr ⟨?_, fun enters => each (inside enters)⟩
  cases now : parts'.all isFunctionPart with
  | false =>
    rwa [Bool.eq_false_iff.mpr fun before => Bool.false_ne_true (now.symm.trans (whole before))]
      at known
  | true =>
    cases before : parts.all isFunctionPart with
    | false => exact t.isKind_whole (before ▸ known)
    | true => exact before ▸ known

theorem Lacks.within (neutral : kind.isNeutral = true) (lacks : Lacks t (.mk kind offset parts))
    (each : AllLack t parts → AllLack t parts') : Lacks t (.mk kind offset' parts') :=
  (lacks_neutral neutral).mpr (each ((lacks_neutral neutral).mp lacks))

/-! ### Nodes that are written -/

section written

variable {object target key value : Node} {ns : List Node}

@[simp] theorem lacks_absent : Lacks t absent := lacks_leaf rfl

@[simp] theorem lacks_text (value : String) : Lacks t (text value) := lacks_leaf rfl

@[simp] theorem lacks_word (text : String) : Lacks t (word text) := lacks_leaf rfl

@[simp] theorem lacks_unresolved (name : String) : Lacks t (leaf (.identifier name .unresolved)) :=
  lacks_mk.mpr ⟨t.isKind_unresolved name, fun _ => allLack_nil⟩

theorem Lacks.ofSymbol {n : Node} {name : Symbol} (lacks : Lacks t n) (known : n.symbol? = some name) :
    Lacks t (ofSymbol name) := by
  unfold symbol? at known
  split at known
  · cases known
    exact lacks.with (fun _ => allLack_nil) fun _ => rfl
  · cases known

@[simp] theorem lacks_access (name : String) : Lacks t (access object name) ↔ Lacks t object :=
  (lacks_pair rfl).trans (and_iff_left (lacks_word name))

@[simp] theorem lacks_call : Lacks t (call target ns) ↔ Lacks t target ∧ AllLack t ns := lacks_cons rfl

@[simp] theorem lacks_assign : Lacks t (assign target value) ↔ Lacks t target ∧ Lacks t value :=
  lacks_pair rfl

@[simp] theorem lacks_object : Lacks t (Node.object ns) ↔ AllLack t ns := lacks_neutral rfl

@[simp] theorem lacks_property : Lacks t (property key value) ↔ Lacks t key ∧ Lacks t value :=
  lacks_pair rfl

@[simp] theorem lacks_statement : Lacks t (statement value) ↔ Lacks t value := lacks_single rfl

@[simp] theorem lacks_block : Lacks t (block ns) ↔ AllLack t ns := lacks_neutral rfl

@[simp] theorem lacks_declaration (binding : Binding) :
    Lacks t (declaration binding target value) ↔ Lacks t target ∧ Lacks t value :=
  (lacks_single rfl).trans (lacks_pair rfl)

theorem lacks_sequenceOf (each : AllLack t ns) : Lacks t (sequenceOf ns) := by
  unfold sequenceOf
  split
  · simpa using each
  · exact (lacks_neutral rfl).mpr each

end written

end Node

end ScriptBundle.Script
