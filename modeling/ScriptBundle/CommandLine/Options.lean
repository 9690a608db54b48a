import ScriptBundle.Settings

/-! What a run can be asked for, and how the parts of a request are called in messages. -/
namespace ScriptBundle.CommandLine

/-- A request for a bundle. -/
structure Options where
  entry : Path
  /-- The file for the bundle, which is printed if there is none. -/
  output : Option Path := none
  verbosity : Nat := 0
  /-- A file of settings above all others. -/
  settings : Option Path := none
  target : Option String := none
  instantiation : Option Instantiation := none
  minify : Bool := false
  deriving DecidableEq, Inhabited, Repr

/-- The parts of a request that have a value. The first two are told apart by their position. -/
inductive Parameter where
  | entry
  | output
  | settings
  | target
  | instantiation
  deriving DecidableEq, Inhabited, Repr

def Parameter.usage : Parameter → String
  | .entry => "<ENTRY>"
  | .output => "[OUTPUT]"
  | .settings => "--config <CONFIG>"
  | .target => "--target <TARGET>"
  | .instantiation => "--instantiation <INSTANTIATION>"

/-- The parts of a request that have no value. -/
inductive Flag where
  | verbose
  | minify
  | help
  | version
  deriving DecidableEq, Inhabited, Repr

def Flag.usage : Flag → String
  | .verbose => "--verbose..."
  | .minify => "--minify"
  | .help => "--help"
  | .version => "--version"

/-- What an option's name stands for. -/
inductive Switch where
  | parameter (p : Parameter)
  | flag (f : Flag)
  deriving DecidableEq, Inhabited, Repr

namespace Switch

def ofLong? : String → Option Switch
  | "config" => some (.parameter .settings)
  | "target" => some (.parameter .target)
  | "instantiation" => some (.parameter .instantiation)
  | "verbose" => some (.flag .verbose)
  | "minify" => some (.flag .minify)
  | "help" => some (.flag .help)
  | "version" => some (.flag .version)
  | _ => none

def ofShort? : Char → Option Switch
  | 'c' => some (.parameter .settings)
  | 'v' => some (.flag .verbose)
  | 'h' => some (.flag .help)
  | 'V' => some (.flag .version)
  | _ => none

end Switch

/-- What is wrong with a request. -/
inductive Misuse where
  | unexpectedArgument (argument : String)
  | unexpectedValue (value usage : String)
  | repeated (usage : String)
  | missingValue (usage : String)
  | invalidValue (value usage : String)
  | missingEntry
  deriving DecidableEq, Inhabited, Repr

def Misuse.message : Misuse → String
  | .unexpectedArgument argument => "unexpected argument '" ++ argument ++ "' found"
  | .unexpectedValue value usage =>
    "unexpected value '" ++ value ++ "' for '" ++ usage ++ "' found; no more were expected"
  | .repeated usage => "the argument '" ++ usage ++ "' cannot be used multiple times"
  | .missingValue usage => "a value is required for '" ++ usage ++ "' but none was supplied"
  | .invalidValue value usage => "invalid value '" ++ value ++ "' for '" ++ usage ++ "'"
  | .missingEntry => "the following required arguments were not provided:"

end ScriptBundle.CommandLine
