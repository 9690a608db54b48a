import ScriptBundle.CommandLine.Options

/-! From arguments to a request. Arguments are read from left to right. A value is checked only when
the next part begins, so of two faults the one of the later part may show. -/
namespace ScriptBundle.CommandLine

/-- Why reading ends before the arguments do. -/
inductive Stop where
  | help (isLong : Bool)
  | version
  | misuse (m : Misuse)
  deriving DecidableEq, Inhabited, Repr

/-- What was read so far. A parameter is pending until its value is checked; it may still lack its
value. -/
structure Reading where
  entry : Option Path := none
  output : Option Path := none
  verbosity : Nat := 0
  settings : Option Path := none
  target : Option String := none
  instantiation : Option Instantiation := none
  minify : Bool := false
  pending : Option (Parameter × Option String) := none
  /-- How many parameters were told apart by their position. -/
  positions : Nat := 0
  deriving Inhabited

namespace Reading

/-- How often verbosity counts. -/
def verbosityLimit : Nat := 255

def refuse {α : Type} (m : Misuse) : Except Stop α := .error (.misuse m)

/-- The path that a value gives to a parameter. -/
def path (p : Parameter) (value : String) : Except Stop Path :=
  if value = "" then refuse (.missingValue p.usage) else .ok ⟨value⟩

def isGiven (r : Reading) : Parameter → Bool
  | .entry => r.entry.isSome
  | .output => r.output.isSome
  | .settings => r.settings.isSome
  | .target => r.target.isSome
  | .instantiation => r.instantiation.isSome

/-- Checks a value and gives it to its parameter. -/
def give (r : Reading) (p : Parameter) (value : String) : Except Stop Reading := do
  if r.isGiven p then refuse (.repeated p.usage)
  match p with
  | .entry => return { r with entry := some (← path p value) }
  | .output => return { r with output := some (← path p value) }
  | .settings => return { r with settings := some (← path p value) }
  | .target => return { r with target := some value }
  | .instantiation =>
    match Instantiation.ofName? value with
    | some instantiation => return { r with instantiation := some instantiation }
    | none =>
      refuse (if value = "" then .missingValue p.usage else .invalidValue value p.usage)

/-- Checks the pending parameter. -/
def settle (r : Reading) : Except Stop Reading :=
  match r.pending with
  | none => .ok r
  | some (p, none) => refuse (.missingValue p.usage)
  | some (p, some value) => { r with pending := none }.give p value

/-- Reads a flag; `isLong` says how its name was written. -/
def raise (r : Reading) (isLong : Bool) (f : Flag) : Except Stop Reading := do
  let r ← r.settle
  match f with
  | .verbose => return { r with verbosity := min (r.verbosity + 1) verbosityLimit }
  | .minify =>
    if r.minify then refuse (.repeated f.usage)
    return { r with minify := true }
  | .help => throw (.help isLong)
  | .version => throw .version

/-- Reads the name of a parameter, with its value if that is attached. -/
def name (r : Reading) (p : Parameter) (attached : Option String) : Except Stop Reading := do
  let r ← r.settle
  match attached with
  | some value => r.give p value
  | none => return { r with pending := some (p, none) }

/-- An option's text before and after its first equals sign. -/
def splitValue (text : String) : String × Option String :=
  match text.splitOn "=" with
  | name :: first :: rest => (name, some ("=".intercalate (first :: rest)))
  | _ => (text, none)

/-- Reads an option with a long name. -/
def long (r : Reading) (text : String) : Except Stop Reading :=
  let (written, attached) := splitValue text
  match Switch.ofLong? written, attached with
  | some (.parameter p), _ => r.name p attached
  | some (.flag f), some value => refuse (.unexpectedValue value f.usage)
  | some (.flag f), none => r.raise true f
  | none, _ => refuse (.unexpectedArgument ("--" ++ written))

/-- What a cluster attaches to a parameter, where an equals sign in front does not count. -/
def attachedValue : List Char → Option String
  | [] => none
  | '=' :: rest => some (String.ofList rest)
  | rest => some (String.ofList rest)

/-- Reads a cluster of options with short names. -/
def short (r : Reading) : List Char → Except Stop Reading
  | [] => .ok r
  | c :: rest =>
    match Switch.ofShort? c with
    | some (.parameter p) => r.name p (attachedValue rest)
    | some (.flag f) => do short (← r.raise false f) rest
    | none => refuse (.unexpectedArgument (String.ofList ['-', c]))

/-- Reads a parameter that its position tells apart. -/
def positional (r : Reading) (value : String) : Except Stop Reading := do
  let next (p : Parameter) : Except Stop Reading := do
    let r ← r.settle
    return { r with
      pending := some (p, some value)
      positions := r.positions + 1 }
  match r.positions with
  | 0 => next .entry
  | 1 => next .output
  | _ => refuse (.unexpectedArgument value)

/-- Reads an argument before the mark that ends all options. -/
def argument (r : Reading) (text : String) : Except Stop Reading :=
  match text.toList, r.pending with
  | '-' :: '-' :: rest, _ => r.long (String.ofList rest)
  | '-' :: c :: rest, _ => r.short (c :: rest)
  | _, some (p, none) => .ok { r with pending := some (p, some text) }
  | _, _ => r.positional text

/-- Reads all arguments. After a first argument that is only the mark, all are values. -/
def arguments (r : Reading) : List String → Except Stop Reading
  | [] => .ok r
  | "--" :: rest => rest.foldlM positional r
  | text :: rest => do arguments (← r.argument text) rest

/-- The request that was read. -/
def finish (r : Reading) : Except Stop Options := do
  let r ← r.settle
  match r.entry with
  | none => refuse .missingEntry
  | some entry => return {
      entry
      output := r.output
      verbosity := r.verbosity
      settings := r.settings
      target := r.target
      instantiation := r.instantiation
      minify := r.minify }

end Reading

/-- The request that arguments make. -/
def Options.ofArguments (arguments : List String) : Except Stop Options := do
  (← Reading.arguments {} arguments).finish

end ScriptBundle.CommandLine
