import ScriptBundle.Proofs.Rewriting.Alone

/-! What linking makes of a module, given the answers of resolution: the items of the linked module are
those of the module, with forms replaced by their statements and calls of `require` by calls of the
dispatcher. -/
namespace ScriptBundle.Rewriting

open Script

/-- The module that a specifier refers to, if it refers to one. -/
def target (disk : Disk) (importer : Path) (specifier : String) : Identity :=
  (Resolution.answer disk specifier importer).toOption.getD default

/-- A call of the global `require` with one string as a call of the dispatcher. -/
def redirectedCall (target : String → Identity) (n : Node) : Node :=
  match (requireArguments? n).bind soleSpecifier? with
  | some specifier => dispatchWith (n.parts.filter (·.isTypes)) (target specifier)
  | none => n

mutual

/-- A node in which the calls of `require` call the dispatcher. -/
def redirected (target : String → Identity) : Node → Node
  | .mk kind offset parts => redirectedCall target (.mk kind offset (redirectedAll target parts))

def redirectedAll (target : String → Identity) : List Node → List Node
  | [] => []
  | n :: rest => redirected target n :: redirectedAll target rest

end

/-- The statements for an item with a form. -/
def ItemForm.statements (target : String → Identity) : ItemForm → List Node
  | .statement n => [n]
  | .exporting form => form.statements
  | .importing form =>
    match form.specifier? with
    | some specifier => form.statements (target specifier)
    | none => []

/-- An import that no module is asked for has no statements. -/
theorem statements_ofParts (target : String → Identity) (specifier : String)
    (specifiers : List Node) :
    ItemForm.statements target (.importing (.ofParts specifier specifiers)) =
      (ImportForm.ofParts specifier specifiers).statements (target specifier) := by
  unfold ImportForm.ofParts
  dsimp only
  split_ifs <;> rfl

/-- The statements for an item of a module, where some names are only types. -/
def lowered (target : String → Identity) (types : List String) (n : Node) : List Node :=
  match ItemForm.ofNode types n with
  | .ok form => form.statements target
  | .error _ => []

/-- The items that have a form, each with its form. -/
inductive HasForm (types : List String) : Node → ItemForm → Prop
  | importing (offset : Nat) (specifier : String) (raw : Option String) (place : Nat)
    (parts : List Node) (attributes : Node) (specifiers : List Node) :
    HasForm types (.mk (.import false) offset
      (.mk (.string specifier raw) place parts :: attributes :: specifiers))
      (.importing (.ofParts specifier specifiers))
  | importTypes (offset : Nat) (specifier : String) (raw : Option String) (place : Nat)
    (parts : List Node) (attributes : Node) (specifiers : List Node) :
    HasForm types (.mk (.import true) offset
      (.mk (.string specifier raw) place parts :: attributes :: specifiers)) (.importing .typeOnly)
  | aliasType (isExported : Bool) (offset : Nat) (parts : List Node) :
    HasForm types (.mk (.alias isExported true) offset parts) (.importing .typeOnly)
  | value (offset : Nat) (value : Node) :
    HasForm types (.mk .exportDefault offset [value]) (.exporting (.defaultExpression value))
  | declaration (offset : Nat) (declaration : Node) :
    HasForm types (.mk .exportDefaultDeclaration offset [declaration])
      (.exporting (.ofDefault declaration))
  | names (offset : Nat) {source : Node} (attributes : Node) {specifiers : List Node}
    (here : source.isAbsent) (named : specifiers.any isStringNamed = false) :
    HasForm types (.mk (.exportNames false) offset (source :: attributes :: specifiers))
      (.exporting (.ofNames types specifiers))
  | nameTypes (offset : Nat) (source attributes : Node) (specifiers : List Node) :
    HasForm types (.mk (.exportNames true) offset (source :: attributes :: specifiers))
      (.exporting .typeOnly)
  | typeDeclaration (offset : Nat) {declaration : Node} (erased : isTypeLevel declaration) :
    HasForm types (.mk .exportDeclaration offset [declaration]) (.exporting .typeOnly)
  | asNamespace (offset : Nat) (parts : List Node) :
    HasForm types (.mk .exportAsNamespace offset parts) (.exporting .typeOnly)
  | statement {n : Node} (own : ItemForm.ofNode types n = .ok (.statement n)) :
    HasForm types n (.statement n)

theorem hasForm {types : List String} {n : Node} {form : ItemForm}
    (known : ItemForm.ofNode types n = .ok form) : HasForm types n form := by
  have own := known
  unfold ItemForm.ofNode at known
  split at known
  case h_1 isTypeOnly offset specifier raw place parts attributes specifiers =>
    cases known
    cases isTypeOnly with
    | true => exact .importTypes ..
    | false => exact .importing ..
  case h_2 offset value =>
    cases known
    exact .value offset value
  case h_3 offset declaration =>
    cases known
    exact .declaration offset declaration
  case h_4 isTypeOnly offset source attributes specifiers =>
    split_ifs at known with erased outside named <;> cases known
    · obtain rfl : isTypeOnly = true := erased
      exact .nameTypes ..
    · obtain rfl : isTypeOnly = false := by simpa using erased
      exact .names offset attributes (by simpa using outside) (by simpa using named)
  case h_5 offset declaration =>
    split_ifs at known with erased
    cases known
    exact .typeDeclaration offset erased
  case h_6 offset parts =>
    cases known
    exact .asNamespace offset parts
  case h_7 isExported isTypeOnly offset parts =>
    split_ifs at known with erased
    cases known
    obtain rfl : isTypeOnly = true := erased
    exact .aliasType ..
  case h_8 | h_9 => cases known
  case h_10 =>
    cases known
    exact .statement own

/-- The module that linking makes. -/
def linked (disk : Disk) (importer : Path) (m : Module) : Module :=
  let target := target disk importer
  { m with items := redirectedAll target (m.items.flatMap (lowered target (typeOnlyNames m.items))) }

end ScriptBundle.Rewriting
