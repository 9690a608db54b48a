import Mathlib.Data.List.Forall2
import ScriptBundle.Proofs.Rewriting.Dispatches

/-! Redirecting calls of `require`. Calls of the dispatcher that are there already stay, since their
arguments have no parts, and one is added for every module that is recorded. -/
namespace ScriptBundle.Rewriting

open Script

variable {disk : Disk}

/-- A specifier in an import or a call is resolved to a file. -/
theorem resolve_ensures (importer : Path) (specifier : String) :
    Ensures disk (liftM (Resolution.resolve disk specifier importer)) fun o identity o' =>
      o' = o ∧ disk.HasFile identity :=
  .lift (.resolve disk specifier importer) fun _ => Resolution.hasFile_of_resolve_alone

theorem refer_ensures (importer : Path) (specifier : String) :
    Ensures disk (refer disk importer specifier) fun o identity o' =>
      Grows disk o o' [identity] := by
  have record (identity : Identity) : Ensures disk (do modify (·.refer identity); return identity)
      fun o identity' o' => identity' = identity ∧ o' = o.refer identity :=
    .modifying _ (.pure identity) fun _ _ _ done => done
  refine .bind (resolve_ensures importer specifier) record ?_
  rintro o identity _ _ _ ⟨rfl, file⟩ ⟨rfl, rfl⟩
  exact .refer _ file

/-- What calls may become while they are redirected: nodes of the same kind, and the same nodes where
there are no parts. -/
def Similar (n n' : Node) : Prop := n'.kind = n.kind ∧ (n.parts = [] → n' = n)

theorem Similar.refl (n : Node) : Similar n n := ⟨rfl, fun _ => rfl⟩

theorem Similar.isTypes {n n' : Node} (similar : Similar n n') : n'.isTypes = n.isTypes := by
  rw [Node.isTypes, Node.isTypes, similar.1]

theorem eq_of_similar {ns ns' : List Node} (similar : List.Forall₂ Similar ns ns')
    (plain : ∀ n ∈ ns.filter (!·.isTypes), n.parts = []) :
    ns'.filter (!·.isTypes) = ns.filter (!·.isTypes) := by
  induction similar with
  | nil => rfl
  | @cons n n' rest rest' first _ ih =>
    rw [List.filter_cons, List.filter_cons, first.isTypes]
    cases typed : n.isTypes with
    | true => simpa [typed] using ih fun n member => plain n (by simpa [typed] using member)
    | false =>
      rw [first.2 (plain n (by simp [typed])), ih fun n member => plain n (by simp [typed, member])]

/-- A call of the dispatcher whose arguments have no parts stays one with these arguments. -/
theorem dispatchArguments?_similar {kind : Kind} {offset : Nat} {parts parts' : List Node}
    (similar : List.Forall₂ Similar parts parts')
    (plain : ∀ arguments, dispatchArguments? (.mk kind offset parts) = some arguments →
      ∀ n ∈ arguments, n.parts = []) :
    dispatchArguments? (.mk kind offset parts') = dispatchArguments? (.mk kind offset parts) := by
  cases similar with
  | nil => rfl
  | @cons callee callee' arguments arguments' first rest =>
    cases kind <;> try rfl
    simp only [dispatchArguments?, first.1] at plain ⊢
    split_ifs with called
    · rw [eq_of_similar rest (plain _ (if_pos called))]
    · rfl

/-- What has no types stands between the parentheses of a call, and types stand before them. -/
theorem requireArguments?_eq_some {n : Node} {arguments : List Node}
    (called : requireArguments? n = some arguments) : ∃ offset place parts, n =
      .mk (.call false) offset (.mk (.identifier "require" .unresolved) place [] :: parts) ∧
        arguments = parts.filter (!·.isTypes) := by
  unfold requireArguments? at called
  split at called
  next offset place parts =>
    cases called
    exact ⟨offset, place, parts, rfl, rfl⟩
  next => cases called

theorem soleSpecifier?_eq_some {arguments : List Node} {specifier : String}
    (sole : soleSpecifier? arguments = some specifier) :
    ∃ raw offset, arguments = [.mk (.string specifier raw) offset []] := by
  unfold soleSpecifier? at sole
  split at sole
  next specifier' raw offset =>
    cases sole
    exact ⟨raw, offset, rfl⟩
  next => cases sole

/-- A call of `require` has other calls in its type arguments only, which stay. -/
theorem adds_dispatchWith {n : Node} {arguments : List Node} {specifier : String}
    (called : requireArguments? n = some arguments) (sole : soleSpecifier? arguments = some specifier)
    (identity : Identity) :
    Adds (dispatches n) (dispatches (dispatchWith (n.parts.filter (·.isTypes)) identity))
      [identity] := by
  obtain ⟨offset, place, parts, rfl, rfl⟩ := requireArguments?_eq_some called
  obtain ⟨raw, offset', sole⟩ := soleSpecifier?_eq_some sole
  have own : dispatches (.mk (.call false) offset
      (.mk (.identifier "require" .unresolved) place [] :: parts)) = dispatchesOfAll parts := by
    simp [dispatches, dispatchArguments?, dispatchesOfAll, Node.kind, dispatcher]
  have types : (.mk (.identifier "require" .unresolved) place [] :: parts : List Node).filter
      (·.isTypes) = parts.filter (·.isTypes) := rfl
  intro call
  rw [own, ← (perm_dispatchesOfAll parts).mem_iff, sole, Node.parts, types,
    dispatches_dispatchWith fun n member => (List.mem_filter.mp member).2]
  simp [or_comm]

/-- Redirecting a node whose parts are done. -/
theorem redirectCall_ensures (importer : Path) (n : Node) :
    Ensures disk (redirectCall disk importer n) fun o n' o' =>
      Similar n n' ∧ InStep disk o o' (dispatches n) (dispatches n') := by
  have kept : Ensures disk (pure n) fun o n' o' =>
      Similar n n' ∧ InStep disk o o' (dispatches n) (dispatches n') := by
    refine .weaken (.pure n) ?_
    rintro o n' o' ⟨rfl, rfl⟩
    exact ⟨.refl _, [], .refl disk _, .refl _⟩
  unfold redirectCall
  split
  next => exact kept
  next arguments called =>
    split_ifs with several
    · -- A warning is no dependency.
      exact .reporting (.modifying _ kept fun _ _ _ done => done)
    · cases specified : soleSpecifier? arguments with
      | none => exact kept
      | some specifier =>
        refine .bind (refer_ensures importer specifier) (fun identity => .pure _) ?_
        rintro o identity o' _ _ grows ⟨rfl, rfl⟩
        have added := adds_dispatchWith called specified identity
        obtain ⟨offset, place, parts, rfl, -⟩ := requireArguments?_eq_some called
        exact ⟨⟨rfl, by simp [Node.parts]⟩, [identity], grows, added⟩

theorem literal_parts {kind : Kind} {offset : Nat} {parts : List Node}
    (literal : Literal (dispatches (.mk kind offset parts))) : Literal (dispatchesOfAll parts) :=
  fun arguments member => literal arguments (List.mem_append_right _ member)

/-- Redirecting the parts of a node leaves the node a call of the dispatcher if it was one. -/
theorem redirected_parts {kind : Kind} {offset : Nat} {parts parts' : List Node} {o o' : Outcome}
    (literal : Literal (dispatches (.mk kind offset parts)))
    (similar : List.Forall₂ Similar parts parts')
    (redirected : InStep disk o o' (dispatchesOfAll parts) (dispatchesOfAll parts')) :
    InStep disk o o' (dispatches (.mk kind offset parts)) (dispatches (.mk kind offset parts')) := by
  have here : dispatchArguments? (.mk kind offset parts') =
      dispatchArguments? (.mk kind offset parts) := by
    refine dispatchArguments?_similar similar fun arguments called => ?_
    obtain ⟨identity, rfl⟩ := literal arguments (by simp [dispatches, called])
    simp [Node.text, Node.leaf, Node.parts]
  simp only [dispatches, here]
  exact (InStep.refl disk o _).append redirected

theorem redirects_ensures (importer : Path) :
    (∀ n, Literal (dispatches n) → Ensures disk (redirect disk importer n) fun o n' o' =>
      Similar n n' ∧ InStep disk o o' (dispatches n) (dispatches n')) ∧
    ∀ ns, Literal (dispatchesOfAll ns) → Ensures disk (redirectAll disk importer ns) fun o ns' o' =>
      List.Forall₂ Similar ns ns' ∧
        InStep disk o o' (dispatchesOfAll ns) (dispatchesOfAll ns') := by
  apply redirect.mutual_induct
  case case1 =>
    intro offset body test ihTest ihBody literal
    rw [redirect]
    have parts : Literal (dispatches body ++ (dispatches test ++ [])) := literal_parts literal
    refine .bind (ihTest fun _ member => parts _ (by simp [member])) (fun test' =>
      .map (ihBody fun _ member => parts _ (by simp [member]))
        (fun body' => Node.mk .doWhile offset [body', test'])) ?_
    rintro o test' o' _ o'' ⟨similar, redirected⟩ ⟨body', rfl, similar', redirected'⟩
    refine ⟨⟨rfl, by simp [Node.parts]⟩, ?_⟩
    have both : InStep disk o o'' (dispatchesOfAll [body, test])
        (dispatchesOfAll [body', test']) := by
      simpa [dispatchesOfAll] using redirected.comm redirected'
    exact redirected_parts literal (.cons similar' (.cons similar .nil)) both
  case case2 =>
    intro offset base members ihMembers ihBase literal
    rw [redirect]
    have parts : Literal (dispatches base ++ dispatchesOfAll members) := literal_parts literal
    refine .bind (ihMembers fun _ member => parts _ (by simp [member])) (fun members' =>
      .map (ihBase fun _ member => parts _ (by simp [member]))
        (fun base' => Node.mk .classBody offset (base' :: members'))) ?_
    rintro o members' o' _ o'' ⟨similar, redirected⟩ ⟨base', rfl, similar', redirected'⟩
    refine ⟨⟨rfl, by simp [Node.parts]⟩, ?_⟩
    exact redirected_parts literal (.cons similar' similar) (redirected.comm redirected')
  case case3 =>
    intro kind offset parts noLoop noClass ih literal
    rw [redirect.eq_3 _ _ _ _ _ noLoop noClass]
    refine .bind (ih (literal_parts literal))
      (fun parts' => redirectCall_ensures importer (.mk kind offset parts')) ?_
    rintro o parts' o' n' o'' ⟨similar, redirected⟩ ⟨⟨same, plain⟩, redirected'⟩
    refine ⟨⟨same, fun none => ?_⟩, (redirected_parts literal similar redirected).trans redirected'⟩
    obtain rfl : parts = [] := none
    cases similar
    exact plain rfl
  case case4 =>
    intro literal
    refine .weaken (.pure []) ?_
    rintro o _ _ ⟨rfl, rfl⟩
    exact ⟨.nil, .refl disk _ _⟩
  case case5 =>
    intro n rest ihFirst ihRest literal
    rw [redirectAll]
    have parts : Literal (dispatches n ++ dispatchesOfAll rest) := literal
    refine .bind (ihFirst fun _ member => parts _ (by simp [member])) (fun n' =>
      .map (ihRest fun _ member => parts _ (by simp [member])) (n' :: ·)) ?_
    rintro o n' o' _ o'' ⟨similar, redirected⟩ ⟨rest', rfl, similar', redirected'⟩
    exact ⟨.cons similar similar', redirected.append redirected'⟩

end ScriptBundle.Rewriting
