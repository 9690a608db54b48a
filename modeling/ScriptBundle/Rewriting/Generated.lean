import ScriptBundle.Script.Construction
import ScriptBundle.Path

/-! The code that links modules in a bundle: a call of the dispatcher stands for what a module
exports, and exports are added to an object of the module. -/
namespace ScriptBundle.Rewriting

open Script

/-- The name of the function that returns what a module exports. -/
def dispatcher : String := "_dep"

/-- The name of the object that a module is given. -/
def moduleObject : String := "module"

/-- The name of the property with all that a module exports. -/
def exportsProperty : String := "exports"

/-- The call that stands for what a module exports, with type arguments that are kept. -/
def dispatchWith (types : List Node) (identity : Identity) : Node :=
  Node.call (Node.generated dispatcher) (Node.text identity.text :: types)

/-- The call that stands for what a module exports. -/
def dispatch (identity : Identity) : Node := dispatchWith [] identity

/-- What the module exports so far. -/
def exportsSoFar : Node := Node.access (Node.generated moduleObject) exportsProperty

/-- Adds properties to what the module exports. -/
def mergeExports (properties : List Node) : Node :=
  Node.statement (Node.assign exportsSoFar
    (Node.object (.mk .spread 0 [exportsSoFar] :: properties)))

/-- The property with the default export. -/
def defaultProperty (value : Node) : Node := Node.property (Node.word "default") value

/-- A constant that a pattern takes apart or that has a name. -/
def constant (pattern value : Node) : Node := Node.declaration .const pattern value

end ScriptBundle.Rewriting
