import ScriptBundle.Script.Construction

/-! Properties that the parameters of a constructor declare. In plain scripts the class has fields
for them, and the constructor assigns them as soon as the object is there: at its start, or after
each call of the constructor of the base class. -/
namespace ScriptBundle.Script.ParameterProperties

open Node

/-- The pattern of a parameter that also declares a property. -/
def propertyPattern? : Node → Option Node
  | mk .parameterProperty _ [pattern] => some pattern
  | _ => none

/-- The name that a parameter binds, if it is a single one. -/
def parameterName : Node → Node
  | mk .defaulted _ (name :: _) => name
  | n => n

/-- The property of the object under construction with a given key. -/
def ownProperty (key : Node) : Node :=
  match key with
  | mk (.word _) _ _ | mk (.privateName _) _ _ => mk (.member false) 0 [leaf .this, key]
  | mk .computed _ [inner] => mk (.index false) 0 [leaf .this, inner]
  | key => mk (.index false) 0 [leaf .this, key]

/-- The assignment to the property that has the name of a parameter. -/
def storeParameter (name : Node) : Node :=
  assign (ownProperty (word (name.name?.getD ""))) name

def plainField (key value : Node) : Node := mk (.field .none false) 0 [key, value]

/-- The parameters of a class's constructor that declare properties. -/
def propertyNames (members : List Node) : List Node :=
  members.flatMap fun
    | mk .constructor _ [_, parameters, _] =>
      parameters.parts.filterMap fun p => (propertyPattern? p).map parameterName
    | _ => []

/-- The assignment that stands for the value of a field. -/
def fieldValue? : Node → Option Node
  | mk (.field modifiers false) _ [key, value] =>
    if modifiers.isStatic || value.isAbsent then none else some (assign (ownProperty key) value)
  | _ => none

def withoutValue : Node → Node
  | mk (.field modifiers false) offset [key, value] =>
    if modifiers.isStatic then mk (.field modifiers false) offset [key, value]
    else mk (.field modifiers false) offset [key, absent]
  | n => n

mutual

/-- Whether a call of the constructor of the base class is in a node, outside of functions. -/
def callsBase : Node → Bool
  | mk (.call _) _ (mk .super _ _ :: _) => true
  | mk kind _ parts =>
    match kind with
    | .function .. | .constructor | .classBody => false
    | _ => anyCallsBase parts

def anyCallsBase : List Node → Bool
  | [] => false
  | n :: rest => callsBase n || anyCallsBase rest

end

mutual

/-- A node in which expressions follow each call of the constructor of the base class. The flag says
whether the value of the node does not count. -/
def afterBase (added : List Node) (isUnused : Bool) : Node → Node
  | mk (.call isOptional) offset (mk .super place inner :: arguments) =>
    let call := mk (.call isOptional) offset
      (mk .super place inner :: allAfterBase added false arguments)
    if isUnused then mk .sequence 0 (call :: added)
    else mk (.index false) 0 [mk .array 0 (call :: added), leaf (.number "0")]
  | mk .expression offset [inner] => mk .expression offset [afterBase added true inner]
  | mk .paren offset [inner] => mk .paren offset [afterBase added isUnused inner]
  | mk .sequence offset parts => mk .sequence offset (sequenceAfterBase added isUnused parts)
  | mk kind offset parts =>
    match kind with
    | .function .. | .constructor | .classBody => mk kind offset parts
    | _ => mk kind offset (allAfterBase added false parts)

def allAfterBase (added : List Node) (isUnused : Bool) : List Node → List Node
  | [] => []
  | n :: rest => afterBase added isUnused n :: allAfterBase added isUnused rest

def sequenceAfterBase (added : List Node) (isLastUnused : Bool) : List Node → List Node
  | [] => []
  | [last] => [afterBase added isLastUnused last]
  | n :: rest => afterBase added true n :: sequenceAfterBase added isLastUnused rest

end

/-- The statements of a constructor that also makes the given assignments. -/
def initialised (added : List Node) (statements : List Node) : List Node :=
  if anyCallsBase statements then allAfterBase added true statements
  else added.map Node.statement ++ statements

/-- A constructor whose parameters declare no properties, and which makes the given assignments. -/
def plainConstructor (added : List Node) : Node → Node
  | mk .constructor offset [key, mk kind place parameters, mk .block inner statements] =>
    mk .constructor offset [key,
      mk kind place (parameters.map fun p => (propertyPattern? p).getD p),
      mk .block inner (initialised added statements)]
  | n => n

/-- The members of a class without properties that are declared by parameters. When there are such
properties, the values of fields are assigned in the constructor too, so that the properties have
theirs before. -/
def members (ms : List Node) : List Node :=
  let names := propertyNames ms
  if names.isEmpty then ms
  else
    let added := names.map storeParameter ++ ms.filterMap fieldValue?
    names.map (fun n => plainField (word (n.name?.getD "")) absent) ++
      ms.map fun m => plainConstructor added (withoutValue m)

end ScriptBundle.Script.ParameterProperties
