import ScriptBundle.Proofs.Rewriting.Answers
import ScriptBundle.Proofs.Script.DeclaredNames
import ScriptBundle.Proofs.Script.FreeNames

/-! Names in what linking makes of an item. The statements for an item declare no name that the item does
not declare, and what the bundler writes in them is free if no scope around them declares it. -/
namespace ScriptBundle.Rewriting

open Script

variable {target : String → Identity}

theorem redirectedAll_eq (ns : List Node) : redirectedAll target ns = ns.map (redirected target) := by
  induction ns with
  | nil => rfl
  | cons n rest ih => rw [redirectedAll, ih, List.map_cons]

theorem redirectedCall_eq (target : String → Identity) (n : Node) : redirectedCall target n = n ∨
    (∃ offset parts, n = .mk (.call false) offset parts) ∧
      ∃ identity, redirectedCall target n = dispatchWith (n.parts.filter (·.isTypes)) identity := by
  unfold redirectedCall requireArguments?
  split
  next specifier found =>
    split at found
    next offset place arguments => exact .inr ⟨⟨_, _, rfl⟩, _, rfl⟩
    next => cases found
  next => exact .inl rfl

theorem redirected_mk {kind : Kind} (other : kind ≠ .call false) (offset : Nat)
    (parts : List Node) :
    redirected target (.mk kind offset parts) = .mk kind offset (redirectedAll target parts) := by
  rw [redirected]
  obtain kept | ⟨⟨_, _, call⟩, -⟩ :=
    redirectedCall_eq target (.mk kind offset (redirectedAll target parts))
  · exact kept
  · cases call
    exact absurd rfl other

@[simp] theorem redirected_dispatch (identity : Identity) :
    redirected target (dispatch identity) = dispatch identity := rfl

/-- A call declares nothing, neither before nor after. -/
theorem redirected_alike : (∀ n, Node.Alike n (redirected target n)) ∧
    ∀ ns, List.Forall₂ Node.Alike ns (redirectedAll target ns) := by
  apply redirected.mutual_induct
  case case1 =>
    intro kind offset parts ih
    rw [redirected]
    obtain kept | ⟨⟨place, arguments, call⟩, identity, dispatched⟩ :=
      redirectedCall_eq target (.mk kind offset (redirectedAll target parts))
    · rw [kept]
      exact .mk_congr ih
    · cases call
      rw [dispatched]
      exact ⟨rfl, rfl, rfl, rfl, rfl, rfl⟩
  case case2 => exact .nil
  case case3 => exact fun n rest ihFirst ihRest => .cons ihFirst ihRest

theorem kind_redirected (n : Node) : (redirected target n).kind = n.kind :=
  (redirected_alike.1 n).kind

theorem isTypes_redirected (n : Node) : (redirected target n).isTypes = n.isTypes := by
  rw [Node.isTypes, Node.isTypes, kind_redirected]

/-- What redirecting makes of the types of a node, or of what else it has. -/
theorem filter_redirectedAll (keeps : Bool → Bool) (ns : List Node) :
    (redirectedAll target ns).filter (keeps ·.isTypes) =
      redirectedAll target (ns.filter (keeps ·.isTypes)) := by
  rw [redirectedAll_eq, redirectedAll_eq, List.filter_map]
  congr 2
  funext n
  exact congrArg keeps (isTypes_redirected n)

section lowering

variable {name : String} {scopes : Scopes}

open Node (FreeIn FreeInAll freeIn_mk freeIn_identifier freeInAll_iff)

theorem freeInAll_redirectedAll {ns : List Node} : FreeInAll name scopes (redirectedAll target ns) ↔
    ∀ n ∈ ns, FreeIn name scopes (redirected target n) := by
  rw [redirectedAll_eq, freeInAll_iff, List.forall_mem_map]

theorem freeIn_redirected {kind : Kind} (other : kind ≠ .call false)
    (transparent : kind.isTransparent) {offset : Nat} {parts : List Node} :
    FreeIn name scopes (redirected target (.mk kind offset parts)) ↔
      ∀ n ∈ parts, FreeIn name scopes (redirected target n) := by
  rw [redirected_mk other, freeIn_mk transparent, freeInAll_redirectedAll]

theorem freeIn_word (text : String) : FreeIn name scopes (redirected target (Node.word text)) :=
  (freeIn_redirected (by simp) rfl).mpr (by simp)

theorem freeIn_absent : FreeIn name scopes (redirected target Node.absent) :=
  (freeIn_redirected (by simp) rfl).mpr (by simp)

theorem freeIn_generated (own : ¬scopes.Declares name) (x : String) :
    FreeIn name scopes (redirected target (Node.generated x)) := by
  rw [Node.generated, Node.leaf, redirected_mk (by simp), freeIn_identifier]
  exact ⟨fun _ _ => own, Node.freeInAll_nil⟩

theorem freeIn_dispatch (own : ¬scopes.Declares name) (identity : Identity) :
    FreeIn name scopes (redirected target (dispatch identity)) := by
  rw [redirected_dispatch, dispatch, dispatchWith, Node.call, freeIn_mk rfl]
  simp only [Node.freeInAll_cons, Node.freeInAll_nil, and_true]
  refine ⟨?_, (freeIn_mk rfl).mpr (by simp)⟩
  rw [Node.generated, Node.leaf, freeIn_identifier]
  exact ⟨fun _ _ => own, Node.freeInAll_nil⟩

theorem freeIn_property (key value : Node) :
    FreeIn name scopes (redirected target (Node.property key value)) ↔
      FreeIn name scopes (redirected target key) ∧ FreeIn name scopes (redirected target value) := by
  rw [Node.property, freeIn_redirected (by simp) rfl]
  simp

theorem freeIn_shorthand (n : Node) :
    FreeIn name scopes (redirected target (Node.shorthand n)) ↔
      FreeIn name scopes (redirected target n) := by
  rw [Node.shorthand, freeIn_redirected (by simp) rfl]
  simp [freeIn_absent]

theorem freeIn_constant (pattern value : Node) :
    FreeIn name scopes (redirected target (constant pattern value)) ↔
      FreeIn name scopes (redirected target pattern) ∧
        FreeIn name scopes (redirected target value) := by
  rw [constant, Node.declaration, freeIn_redirected (by simp) rfl, List.forall_mem_singleton,
    freeIn_redirected (by simp) rfl]
  simp

theorem freeIn_mergeExports (own : ¬scopes.Declares name) (properties : List Node) :
    FreeIn name scopes (redirected target (mergeExports properties)) ↔
      ∀ n ∈ properties, FreeIn name scopes (redirected target n) := by
  have exports : FreeIn name scopes (redirected target exportsSoFar) := by
    rw [exportsSoFar, Node.access, freeIn_redirected (by simp) rfl]
    simp [freeIn_generated own, freeIn_word]
  have spread : FreeIn name scopes (redirected target (.mk .spread 0 [exportsSoFar])) := by
    rw [freeIn_redirected (by simp) rfl, List.forall_mem_singleton]
    exact exports
  rw [mergeExports, Node.statement, freeIn_redirected (by simp) rfl, List.forall_mem_singleton,
    Node.assign, freeIn_redirected (by simp) rfl, List.forall_mem_cons, List.forall_mem_singleton,
    Node.object, freeIn_redirected (by simp) rfl, List.forall_mem_cons]
  simp [exports, spread]

theorem otherName?_eq {n binding other : Node} (known : otherName? n binding = some other) :
    other = n := by
  unfold otherName? at known
  split at known
  next => cases known
  next =>
    split at known <;> cases known
    rfl
  next =>
    cases known
    rfl

/-- The names on both sides of an import or an export. -/
theorem free_otherName? {n binding : Node} (free : FreeIn name scopes (redirected target n)) :
    ∀ other ∈ otherName? n binding, FreeIn name scopes (redirected target other) := by
  intro other known
  rw [otherName?_eq known]
  exact free

theorem ImportBinding.free_pattern {n : Node} {b : ImportBinding}
    (free : FreeIn name scopes (redirected target n)) (known : importBinding? n = some b) :
    FreeIn name scopes (redirected target b.pattern) := by
  unfold importBinding? at known
  split at known
  next offset binding =>
    cases known
    rw [freeIn_redirected (by simp) rfl, List.forall_mem_singleton] at free
    exact (freeIn_property _ _).mpr ⟨freeIn_word _, free⟩
  next offset imported binding =>
    cases known
    rw [freeIn_redirected (by simp) rfl, List.forall_mem_cons, List.forall_mem_singleton] at free
    rw [pattern]
    split
    next key other => exact (freeIn_property _ _).mpr ⟨free_otherName? free.1 _ other, free.2⟩
    next => exact (freeIn_shorthand _).mpr free.2
  next => cases known

theorem free_wholeBinding? {specifiers : List Node} {whole : Node}
    (free : ∀ n ∈ specifiers, FreeIn name scopes (redirected target n))
    (known : wholeBinding? specifiers = some whole) :
    FreeIn name scopes (redirected target whole) := by
  obtain ⟨n, member, bound⟩ := List.mem_filterMap.mp (List.mem_of_getLast? known)
  have part := free n member
  split at bound
  next =>
    cases bound
    rw [freeIn_redirected (by simp) rfl, List.forall_mem_singleton] at part
    exact part
  next => cases bound

namespace ImportForm

theorem free_takeNames {named : List ImportBinding} {source : Node}
    (patterns : ∀ b ∈ named, FreeIn name scopes (redirected target b.pattern))
    (free : FreeIn name scopes (redirected target source)) :
    ∀ n ∈ takeNames named source, FreeIn name scopes (redirected target n) := by
  unfold takeNames
  split
  next => simp
  next =>
    rw [List.forall_mem_singleton, freeIn_constant, freeIn_redirected (by simp) rfl,
      List.forall_mem_map]
    exact ⟨patterns, free⟩

theorem free_statements (own : ¬scopes.Declares name) {specifier : String} {specifiers : List Node}
    (free : ∀ n ∈ specifiers, FreeIn name scopes (redirected target n)) (identity : Identity) :
    ∀ n ∈ (ofParts specifier specifiers).statements identity,
      FreeIn name scopes (redirected target n) := by
  have patterns : ∀ b ∈ specifiers.filterMap importBinding?,
      FreeIn name scopes (redirected target b.pattern) := by
    intro b member
    obtain ⟨n, present, known⟩ := List.mem_filterMap.mp member
    exact ImportBinding.free_pattern (free n present) known
  have call : FreeIn name scopes (redirected target (dispatch identity)) :=
    freeIn_dispatch own identity
  unfold ofParts
  split
  next =>
    rw [statements, List.forall_mem_singleton, Node.statement, freeIn_redirected (by simp) rfl,
      List.forall_mem_singleton]
    exact call
  next =>
    dsimp only
    split
    next => simp [statements]
    next =>
      cases known : wholeBinding? specifiers with
      | none => exact free_takeNames patterns call
      | some whole =>
        have whole := free_wholeBinding? free known
        rw [statements, List.forall_mem_cons, freeIn_constant]
        exact ⟨⟨whole, call⟩, free_takeNames patterns whole⟩

end ImportForm

namespace ExportForm

theorem free_defaultExpression (own : ¬scopes.Declares name) {value : Node}
    (free : FreeIn name scopes (redirected target value)) :
    ∀ n ∈ (defaultExpression value).statements, FreeIn name scopes (redirected target n) := by
  rw [statements, List.forall_mem_singleton, freeIn_mergeExports own, List.forall_mem_singleton,
    defaultProperty, freeIn_property]
  exact ⟨freeIn_word _, free⟩

theorem free_default (own : ¬scopes.Declares name) {declaration : Option Node} {value : Node}
    (kept : ∀ n ∈ declaration, FreeIn name scopes (redirected target n))
    (free : FreeIn name scopes (redirected target value)) :
    ∀ n ∈ (defaultDeclaration declaration value).statements,
      FreeIn name scopes (redirected target n) := by
  rw [statements, List.forall_mem_append]
  exact ⟨by simpa using kept, free_defaultExpression own free⟩

/-- A declaration without a name becomes an expression, in a scope that declares nothing. -/
theorem free_unnamed {kind : Kind} (expression : kind ∈ [.functionExpression, .classExpression])
    {offset : Nat} {first second : Node} (unnamed : first.isAbsent)
    (free : FreeIn name scopes (redirected target first))
    (free' : FreeIn name scopes (redirected target second)) :
    FreeIn name scopes (redirected target (.mk kind offset [first, second])) := by
  obtain ⟨kind', offset', parts⟩ := first
  obtain rfl : kind' = .absent := by simpa [Node.isAbsent, Node.kind] using unnamed
  have nothing : (redirected target (.mk .absent offset' parts)).boundNames = [] :=
    congrArg (·.map Prod.fst) (redirected_alike.1 _).bound
  rw [redirected_mk (by rintro rfl; simp at expression)]
  exact Node.freeIn_unnamed expression nothing free free'

theorem free_ofDefault (own : ¬scopes.Declares name) {n : Node}
    (free : FreeIn name scopes (redirected target n)) :
    ∀ n' ∈ (ofDefault n).statements, FreeIn name scopes (redirected target n') := by
  unfold ofDefault
  split
  case h_1 | h_2 =>
    have parts := free
    rw [freeIn_redirected (by simp) rfl, List.forall_mem_cons, List.forall_mem_singleton] at parts
    split
    next unnamed =>
      exact free_default own (by simp) (free_unnamed (by simp) unnamed parts.1 parts.2)
    next => exact free_default own (by simpa using free) parts.1
  case h_3 => simp [statements]

theorem free_ofNames (own : ¬scopes.Declares name) {types : List String} {specifiers : List Node}
    (free : ∀ n ∈ specifiers, FreeIn name scopes (redirected target n)) :
    ∀ n ∈ (ofNames types specifiers).statements, FreeIn name scopes (redirected target n) := by
  simp only [ofNames, statements]
  split
  next => simp
  next =>
    rw [List.forall_mem_singleton, freeIn_mergeExports own]
    simp only [List.mem_map, List.mem_filter, List.mem_filterMap]
    rintro _ ⟨_, ⟨⟨binding, exported⟩, ⟨⟨n, member, bound⟩, -⟩, rfl⟩, rfl⟩
    have part := free n member
    split at bound
    next =>
      cases bound
      rw [freeIn_redirected (by simp) rfl, List.forall_mem_cons, List.forall_mem_singleton] at part
      rw [ExportBinding.property]
      split
      next key other => exact (freeIn_property _ _).mpr ⟨free_otherName? part.2 _ other, part.1⟩
      next => exact (freeIn_shorthand _).mpr part.1
    next => cases bound

end ExportForm

/-- The statements for an item leave a name free if the item does and the scopes around it too. -/
theorem free_lowered (own : ¬scopes.Declares name) {types : List String} {n : Node}
    (free : FreeIn name scopes (redirected target n)) :
    ∀ n' ∈ lowered target types n, FreeIn name scopes (redirected target n') := by
  unfold lowered
  cases known : ItemForm.ofNode types n with
  | error construct => simp
  | ok form =>
    dsimp only
    cases hasForm known with
    | importing =>
      rw [freeIn_redirected (by simp) rfl] at free
      rw [statements_ofParts]
      exact ImportForm.free_statements own (fun n member => free n (by simp [member])) _
    | value =>
      rw [freeIn_redirected (by simp) rfl, List.forall_mem_singleton] at free
      exact ExportForm.free_defaultExpression own free
    | declaration =>
      rw [freeIn_redirected (by simp) rfl, List.forall_mem_singleton] at free
      exact ExportForm.free_ofDefault own free
    | names =>
      rw [freeIn_redirected (by simp) rfl] at free
      exact ExportForm.free_ofNames own fun n member => free n (by simp [member])
    | importTypes | aliasType | nameTypes | typeDeclaration | asNamespace =>
      exact List.forall_mem_nil _
    | statement => exact List.forall_mem_singleton.mpr free

end lowering

section declaring

open Node (lexicalNames lexicalTypes hoistedNames boundNames boundNamesOfAll boundSymbols
  boundSymbolsOfAll)

/-- Whether a node declares no name that another one does not declare. -/
structure Within (n' n : Node) : Prop where
  lexical : n'.lexicalNames ⊆ n.lexicalNames
  types : n'.lexicalTypes ⊆ n.lexicalTypes
  hoisted : n'.hoistedNames ⊆ n.hoistedNames

theorem within_refl (n : Node) : Within n n :=
  ⟨List.Subset.refl _, List.Subset.refl _, List.Subset.refl _⟩

/-- Neither an expression nor what is merged into the exports declares a name. -/
theorem within_statement (expression n : Node) : Within (Node.statement expression) n :=
  ⟨List.nil_subset _, List.nil_subset _, List.nil_subset _⟩

theorem within_constant {pattern n : Node} (names : pattern.boundNames ⊆ n.lexicalNames)
    (value : Node) : Within (constant pattern value) n := by
  refine ⟨?_, List.nil_subset _, List.nil_subset _⟩
  simpa [constant, Node.declaration, lexicalNames, boundNames, boundSymbols, boundSymbolsOfAll]
    using names

theorem boundSymbolsOfAll_eq (ns : List Node) : boundSymbolsOfAll ns = ns.flatMap boundSymbols := by
  induction ns with
  | nil => rfl
  | cons n rest ih => rw [List.flatMap_cons, ← ih, boundSymbolsOfAll]

theorem boundNamesOfAll_eq (ns : List Node) : boundNamesOfAll ns = ns.flatMap boundNames := by
  rw [boundNamesOfAll, boundSymbolsOfAll_eq, List.map_flatMap]
  rfl

theorem boundNames_objectPattern (offset : Nat) (parts : List Node) :
    (Node.mk .objectPattern offset parts).boundNames = parts.flatMap boundNames :=
  boundNamesOfAll_eq parts

theorem ImportBinding.boundNames_pattern {n : Node} {b : ImportBinding}
    (known : importBinding? n = some b) : b.pattern.boundNames = n.boundNames := by
  unfold importBinding? at known
  split at known
  next offset binding =>
    cases known
    simp [pattern, Node.property, boundNames, boundSymbols, boundSymbolsOfAll]
  next offset imported binding =>
    cases known
    rw [pattern]
    split <;> rfl
  next => cases known

theorem boundNames_wholeBinding? {specifiers : List Node} {whole : Node}
    (known : wholeBinding? specifiers = some whole) :
    whole.boundNames ⊆ specifiers.flatMap boundNames := by
  obtain ⟨n, member, bound⟩ := List.mem_filterMap.mp (List.mem_of_getLast? known)
  split at bound
  next offset binding =>
    cases bound
    intro x declared
    refine List.mem_flatMap.mpr ⟨_, member, ?_⟩
    simpa [boundNames, boundSymbols, boundSymbolsOfAll] using declared
  next => cases bound

theorem ImportForm.within_statements {specifier : String} {specifiers : List Node} {n : Node}
    (names : specifiers.flatMap boundNames ⊆ n.lexicalNames) (identity : Identity) :
    ∀ n' ∈ (ofParts specifier specifiers).statements identity, Within n' n := by
  have taken (source : Node) :
      ∀ n' ∈ takeNames (specifiers.filterMap importBinding?) source, Within n' n := by
    unfold takeNames
    split
    next => simp
    next =>
      rw [List.forall_mem_singleton]
      refine within_constant (fun x declared => names ?_) source
      rw [boundNames_objectPattern, List.mem_flatMap] at declared
      obtain ⟨_, part, declared⟩ := declared
      obtain ⟨b, bound, rfl⟩ := List.mem_map.mp part
      obtain ⟨specifier, present, known⟩ := List.mem_filterMap.mp bound
      rw [ImportBinding.boundNames_pattern known] at declared
      exact List.mem_flatMap.mpr ⟨_, present, declared⟩
  unfold ofParts
  split
  next =>
    rw [statements, List.forall_mem_singleton]
    exact within_statement _ n
  next =>
    dsimp only
    split
    next => simp [statements]
    next =>
      cases known : wholeBinding? specifiers with
      | none => exact taken _
      | some whole =>
        rw [statements, List.forall_mem_cons]
        have whole := List.Subset.trans (boundNames_wholeBinding? known) names
        exact ⟨within_constant whole _, taken _⟩

theorem ExportForm.within_ofDefault {declaration n : Node} (around : Within declaration n) :
    ∀ n' ∈ (ofDefault declaration).statements, Within n' n := by
  unfold ofDefault
  split
  case h_1 | h_2 =>
    split
    all_goals
      rw [statements, List.forall_mem_append, List.forall_mem_singleton]
      exact ⟨by simp [around], within_statement _ n⟩
  case h_3 => simp [statements]

/-- The statements for an item declare no name that the item does not declare. -/
theorem within_lowered {types : List String} {n : Node} :
    ∀ n' ∈ lowered target types n, Within n' n := by
  unfold lowered
  cases known : ItemForm.ofNode types n with
  | error construct => simp
  | ok form =>
    dsimp only
    cases hasForm known with
    | importing =>
      rw [statements_ofParts]
      refine ImportForm.within_statements ?_ _
      rw [← boundNamesOfAll_eq]
      exact List.Subset.refl _
    | value => exact List.forall_mem_singleton.mpr (within_statement _ _)
    | declaration =>
      refine ExportForm.within_ofDefault ⟨List.Subset.refl _, List.Subset.refl _, ?_⟩
      simp [hoistedNames, Node.hoistedNamesOfAll]
    | names =>
      simp only [ItemForm.statements, ExportForm.ofNames, ExportForm.statements]
      split
      next => exact List.forall_mem_nil _
      next => exact List.forall_mem_singleton.mpr (within_statement _ _)
    | importTypes | aliasType | nameTypes | typeDeclaration | asNamespace =>
      exact List.forall_mem_nil _
    | statement => exact List.forall_mem_singleton.mpr (within_refl n)

end declaring

end ScriptBundle.Rewriting
