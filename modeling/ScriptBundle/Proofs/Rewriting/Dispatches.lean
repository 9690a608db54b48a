import ScriptBundle.Proofs.Rewriting.Alone
import ScriptBundle.Proofs.Script.Marks

/-! The calls of the dispatcher that the bundler writes into a module. A name that the bundler writes
is not marked, so they are told from calls that the module itself contains. -/
namespace ScriptBundle.Rewriting

open Script

/-- The arguments of a node that is a call of the dispatcher and was not read. -/
def dispatchArguments? : Node → Option (List Node)
  | .mk (.call _) _ (callee :: arguments) =>
    if callee.kind = .identifier dispatcher .unknown then some (arguments.filter (!·.isTypes))
    else none
  | _ => none

mutual

/-- The arguments of all calls of the dispatcher in a tree that were not read. -/
def dispatches : Node → List (List Node)
  | .mk kind offset parts =>
    (dispatchArguments? (.mk kind offset parts)).toList ++ dispatchesOfAll parts

def dispatchesOfAll : List Node → List (List Node)
  | [] => []
  | n :: rest => dispatches n ++ dispatchesOfAll rest

end

@[simp] theorem dispatches_mk {kind : Kind} {offset : Nat} {parts : List Node}
    (plain : ∀ isOptional, kind ≠ .call isOptional) :
    dispatches (.mk kind offset parts) = dispatchesOfAll parts := by
  cases kind <;> first | rfl | exact (plain _ rfl).elim

@[simp] theorem dispatchesOfAll_nil : dispatchesOfAll [] = [] := rfl

@[simp] theorem dispatchesOfAll_cons (n : Node) (rest : List Node) :
    dispatchesOfAll (n :: rest) = dispatches n ++ dispatchesOfAll rest := rfl

theorem dispatchesOfAll_eq (ns : List Node) : dispatchesOfAll ns = ns.flatMap dispatches := by
  induction ns with
  | nil => rfl
  | cons n rest ih => rw [dispatchesOfAll, ih, List.flatMap_cons]

@[simp] theorem dispatches_generated (name : String) : dispatches (Node.generated name) = [] := rfl

section types

variable {types : List Node} (only : ∀ n ∈ types, n.isTypes) (identity : Identity)
include only

theorem dispatchArguments?_dispatchWith :
    dispatchArguments? (dispatchWith types identity) = some [Node.text identity.text] := by
  have value : (Node.text identity.text).isTypes = false := rfl
  have none : types.filter (!·.isTypes) = [] := by simpa using only
  simp [dispatchWith, Node.call, dispatchArguments?, Node.generated, Node.kind, value, none]

/-- In type arguments there may be further calls. -/
theorem dispatches_dispatchWith : dispatches (dispatchWith types identity) =
    [Node.text identity.text] :: dispatchesOfAll types := by
  have here := dispatchArguments?_dispatchWith only identity
  rw [dispatchWith, Node.call] at here ⊢
  rw [dispatches, here]
  rfl

end types

@[simp] theorem dispatches_dispatch (identity : Identity) :
    dispatches (dispatch identity) = [[Node.text identity.text]] := rfl

/-- Types among the parts of a node may be looked at first. -/
theorem perm_dispatchesOfAll (ns : List Node) :
    (dispatchesOfAll (ns.filter (·.isTypes)) ++ dispatchesOfAll (ns.filter (!·.isTypes))).Perm
      (dispatchesOfAll ns) := by
  simp only [dispatchesOfAll_eq, ← List.flatMap_append]
  exact (List.filter_append_perm _ ns).flatMap_right dispatches

/-- What was read and marked has no such calls. -/
theorem dispatches_marked : (∀ n : Node, n.isMarked = true → dispatches n = []) ∧
    ∀ ns, Node.allMarked ns = true → dispatchesOfAll ns = [] := by
  apply Node.isMarked.mutual_induct
  case case1 =>
    intro kind offset parts ih marked
    simp only [Node.isMarked, Bool.and_eq_true] at marked
    have here : dispatchArguments? (.mk kind offset parts) = none := by
      unfold dispatchArguments?
      split
      next heq =>
        cases heq
        refine if_neg fun written => ?_
        simp only [Node.allMarked, Bool.and_eq_true] at marked
        have read := Node.isMarked_kind marked.2.1
        rw [written] at read
        cases read
      next => rfl
    rw [dispatches, here, ih marked.2]
    rfl
  case case2 => exact fun _ => rfl
  case case3 =>
    intro n rest ihFirst ihRest marked
    simp only [Node.allMarked, Bool.and_eq_true] at marked
    rw [dispatchesOfAll, ihFirst marked.1, ihRest marked.2]
    rfl

/-- Whether calls are for modules: each has the text of an identity as its only argument. -/
def Literal (calls : List (List Node)) : Prop :=
  ∀ arguments ∈ calls, ∃ identity : Identity, arguments = [Node.text identity.text]

/-- Whether calls become others by adding calls for the modules that were found. -/
def Adds (before after : List (List Node)) (found : List Identity) : Prop :=
  ∀ arguments, arguments ∈ after ↔
    arguments ∈ before ∨ ∃ identity ∈ found, arguments = [Node.text identity.text]

namespace Adds

variable {before middle after : List (List Node)} {found others : List Identity}

theorem refl (calls : List (List Node)) : Adds calls calls [] := by simp [Adds]

theorem trans (first : Adds before middle found) (second : Adds middle after others) :
    Adds before after (found ++ others) := by
  intro arguments
  rw [second arguments, first arguments]
  simp only [List.mem_append, or_and_right, exists_or, or_assoc]

theorem append {before' after' : List (List Node)} (first : Adds before after found)
    (second : Adds before' after' others) :
    Adds (before ++ before') (after ++ after') (found ++ others) := by
  intro arguments
  simp only [List.mem_append, first arguments, second arguments, or_and_right, exists_or]
  exact or_or_or_comm

end Adds

/-- Whether an outcome becomes another by referring to modules that were found on the disk. -/
def Grows (disk : Disk) (before after : Outcome) (found : List Identity) : Prop :=
  (∀ identity ∈ found, disk.HasFile identity) ∧
    ∀ identity, identity ∈ after.dependencies ↔
      identity ∈ before.dependencies ∨ identity ∈ found

namespace Grows

variable {disk : Disk} {first second third : Outcome} {found others : List Identity}

theorem refl (disk : Disk) (o : Outcome) : Grows disk o o [] := by simp [Grows]

theorem trans (early : Grows disk first second found) (late : Grows disk second third others) :
    Grows disk first third (found ++ others) := by
  refine ⟨?_, ?_⟩
  · intro identity member
    rcases List.mem_append.mp member with member | member
    · exact early.1 identity member
    · exact late.1 identity member
  · intro identity
    rw [late.2, early.2, List.mem_append, or_assoc]

theorem refer (o : Outcome) {identity : Identity} (file : disk.HasFile identity) :
    Grows disk o (o.refer identity) [identity] := by
  refine ⟨by simpa using file, ?_⟩
  intro other
  unfold Outcome.refer
  split
  next known =>
    have known : identity ∈ o.dependencies := by simpa using known
    constructor
    · exact .inl
    · rintro (member | member)
      · exact member
      · rwa [List.mem_singleton.mp member]
  next => simp

end Grows

/-- Whether calls and references grow in step: calls are added for modules that are found on the disk,
and these modules are recorded. -/
def InStep (disk : Disk) (o o' : Outcome) (before after : List (List Node)) : Prop :=
  ∃ found, Grows disk o o' found ∧ Adds before after found

namespace InStep

variable {o o' o'' : Outcome} {before middle after before' after' : List (List Node)}

theorem refl (disk : Disk) (o : Outcome) (calls : List (List Node)) :
    InStep disk o o calls calls :=
  ⟨[], .refl disk o, .refl calls⟩

theorem trans (first : InStep disk o o' before middle)
    (second : InStep disk o' o'' middle after) : InStep disk o o'' before after := by
  obtain ⟨found, grows, adds⟩ := first
  obtain ⟨others, grows', adds'⟩ := second
  exact ⟨found ++ others, grows.trans grows', adds.trans adds'⟩

theorem append (first : InStep disk o o' before after)
    (second : InStep disk o' o'' before' after') :
    InStep disk o o'' (before ++ before') (after ++ after') := by
  obtain ⟨found, grows, adds⟩ := first
  obtain ⟨others, grows', adds'⟩ := second
  exact ⟨found ++ others, grows.trans grows', adds.append adds'⟩

theorem literal (redirected : InStep disk o o' [] after) : Literal after := by
  obtain ⟨found, -, adds⟩ := redirected
  intro arguments member
  obtain none | ⟨identity, -, equal⟩ := (adds arguments).mp member
  · cases none
  · exact ⟨identity, equal⟩

/-- Two parts may be done in either order. -/
theorem comm (first : InStep disk o o' before after)
    (second : InStep disk o' o'' before' after') :
    InStep disk o o'' (before' ++ before) (after' ++ after) := by
  obtain ⟨found, grows, adds⟩ := first
  obtain ⟨others, grows', adds'⟩ := second
  refine ⟨found ++ others, grows.trans grows', fun arguments => ?_⟩
  rw [adds'.append adds arguments]
  simp only [List.mem_append, or_comm (a := _ ∈ others)]

end InStep

theorem dispatchesOfAll_eq_nil {ns : List Node} :
    dispatchesOfAll ns = [] ↔ ∀ n ∈ ns, dispatches n = [] := by
  rw [dispatchesOfAll_eq, List.flatMap_eq_nil_iff]

@[simp] theorem dispatches_word (text : String) : dispatches (Node.word text) = [] := rfl

@[simp] theorem dispatches_absent : dispatches Node.absent = [] := rfl

@[simp] theorem dispatches_property (key value : Node) :
    dispatches (Node.property key value) = dispatches key ++ dispatches value := by
  simp [Node.property]

@[simp] theorem dispatches_shorthand (name : Node) :
    dispatches (Node.shorthand name) = dispatches name := by
  simp [Node.shorthand]

@[simp] theorem dispatches_constant (pattern value : Node) :
    dispatches (constant pattern value) = dispatches pattern ++ dispatches value := by
  simp [constant, Node.declaration]

@[simp] theorem dispatches_statement (expression : Node) :
    dispatches (Node.statement expression) = dispatches expression := by
  simp [Node.statement]

@[simp] theorem dispatches_mergeExports (properties : List Node) :
    dispatches (mergeExports properties) = dispatchesOfAll properties := by
  simp [mergeExports, exportsSoFar, Node.assign, Node.object, Node.access]

end ScriptBundle.Rewriting
