import ScriptBundle.Edition
import ScriptBundle.Failure
import ScriptBundle.Log
import ScriptBundle.Text.Quoted
import ScriptBundle.Toml.Reader

/-! Settings of a run, and the layers that they come from. A layer may leave any setting open; of
two layers the higher one wins field by field, and what no layer sets has a default. -/
namespace ScriptBundle

/-- How often the body of a module runs: once, or anew at each dispatch. -/
inductive Instantiation where
  | cached
  | perDispatch
  deriving DecidableEq, Inhabited, Repr

namespace Instantiation

def name : Instantiation → String
  | .cached => "cached"
  | .perDispatch => "per-dispatch"

/-- The name that reports show. -/
def label : Instantiation → String
  | .cached => "Cached"
  | .perDispatch => "PerDispatch"

def ofName? : String → Option Instantiation
  | "cached" => some .cached
  | "per-dispatch" => some .perDispatch
  | _ => none

end Instantiation

structure Settings where
  target : String := "es2020"
  instantiation : Instantiation := .cached
  minify : Bool := false
  deriving DecidableEq, Inhabited, Repr

/-- One layer of settings. -/
structure Layer where
  target : Option String := none
  instantiation : Option Instantiation := none
  minify : Option Bool := none
  deriving DecidableEq, Inhabited, Repr

/-- The edition of a given name, or why there is none. -/
def parseTarget (target : String) : Except Failure Edition :=
  match Edition.ofName? target with
  | some edition => .ok edition
  | none => .error (.other ("Invalid target '" ++ target ++
      "'. Supported targets: es3, es5, es2015 .. es2022, esnext"))

namespace Settings

def edition (s : Settings) : Except Failure Edition := parseTarget s.target

/-- The settings with another target, if it names an edition. -/
def setTarget (s : Settings) (target : String) : Except Failure Settings := do
  let _ ← parseTarget target
  return { s with target }

/-- How reports show settings. -/
def label (s : Settings) : String :=
  "Config \x7b target: " ++ Text.quoted s.target ++ ", instantiation: " ++ s.instantiation.label ++
    ", minify: " ++ toString s.minify ++ " \x7d"

end Settings

namespace Layer

/-- The layer that takes each setting from the first of the two that has it. -/
def combine (high low : Layer) : Layer where
  target := high.target <|> low.target
  instantiation := high.instantiation <|> low.instantiation
  minify := high.minify <|> low.minify

def toSettings (l : Layer) : Settings where
  target := l.target.getD "es2020"
  instantiation := l.instantiation.getD .cached
  minify := l.minify.getD false

/-- A value that holds nothing. -/
def isEmpty : Toml.Value → Bool
  | .list [] | .tables [] | .table _ [] => true
  | _ => false

/-- The way to instantiate that a value names, as a text or as the one key of an empty table. -/
def instantiation? : Toml.Value → Option Instantiation
  | .text name => Instantiation.ofName? name
  | .table _ [(name, value)] => if isEmpty value then Instantiation.ofName? name else none
  | _ => none

/-- The layer with one more member of a document; unknown members and wrong types are refused. -/
def addMember (l : Layer) : String × Toml.Value → Option Layer
  | ("target", .text target) => some { l with target := some target }
  | ("instantiation", value) => do return { l with instantiation := some (← instantiation? value) }
  | ("minify", .flag on) => some { l with minify := some on }
  | _ => none

/-- The layer that a text writes. -/
def ofText? (text : String) : Option Layer := do
  (← Toml.document? text).foldlM addMember {}

/-- The layer in the file that a path denotes. -/
def load (disk : Disk) (path : Path) : Except Failure Layer :=
  match disk.readText path with
  | .error cause =>
    .error (.within ("Failed to read config file: " ++ path.quoted) (.fault cause))
  | .ok text =>
    match ofText? text with
    | some layer => .ok layer
    | none =>
      .error (.within ("Failed to parse config file: " ++ path.quoted) (.other "TOML parse error"))

end Layer

end ScriptBundle
