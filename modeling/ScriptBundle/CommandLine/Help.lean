import ScriptBundle.CommandLine.Options

/-! What the program says about itself: a short form with one line for each part of a request, and a
long form with paragraphs. -/
namespace ScriptBundle.CommandLine

/-- One part of a request in the help. -/
structure Topic where
  usage : String
  text : String
  /-- What the short form adds on the same line. -/
  addition : String := ""
  /-- What the long form adds below. -/
  details : List String := []

namespace Help

def programName : String := "reqless"

def version : String := programName ++ " 0.1.0\n"

def about : String :=
  "TypeScript source bundler that produces a single self-contained script from multi-module projects"

def usage : String := "Usage: " ++ programName ++ " [OPTIONS] <ENTRY> [OUTPUT]"

def argumentTopics : List Topic :=
  [{ usage := Parameter.entry.usage, text := "Entry point TypeScript module" },
    { usage := Parameter.output.usage, text := "Output bundle file (stdout if omitted)" }]

/-- The parts with names; a part without a short name is indented as if it had one. -/
def optionTopics (helpText : String) : List Topic :=
  [{ usage := "-v, " ++ Flag.verbose.usage
     text := "Increase verbosity (can be repeated: -v, -vv, -vvv)" },
    { usage := "-c, " ++ Parameter.settings.usage
      text := "Configuration file path" },
    { usage := "    " ++ Parameter.target.usage
      text :=
        "ECMAScript version to print the bundle for (e.g., es5, es2015, es2020, esnext)" },
    { usage := "    " ++ Parameter.instantiation.usage
      text := "How modules are instantiated by the generated dispatcher"
      addition := " [possible values: " ++
        ", ".intercalate [Instantiation.cached.name, Instantiation.perDispatch.name] ++ "]"
      details :=
        ["Possible values:",
          "- " ++ Instantiation.cached.name ++
            ":       Run a module's initializer on first dispatch and reuse its exports afterwards",
          "- " ++ Instantiation.perDispatch.name ++
            ": Run a module's initializer again on every dispatch"] },
    { usage := "    " ++ Flag.minify.usage
      text := "Print the bundle without insignificant whitespace" },
    { usage := "-h, " ++ Flag.help.usage
      text := helpText },
    { usage := "-V, " ++ Flag.version.usage
      text := "Print version" }]

def blanks (n : Nat) : String := String.ofList (List.replicate n ' ')

/-- Topics on one line each, their texts below each other. -/
def shortLines (topics : List Topic) : List String :=
  let width := (topics.map (·.usage.length)).foldl max 0
  topics.map fun t => "  " ++ t.usage ++ blanks (width - t.usage.length) ++ "  " ++ t.text ++ t.addition

/-- A topic as a paragraph. -/
def paragraph (t : Topic) : List String :=
  ("  " ++ t.usage) :: (blanks 10 ++ t.text) ::
    if t.details.isEmpty then [] else "" :: t.details.map (blanks 10 ++ ·)

/-- Topics as paragraphs with an empty line between two of them. -/
def longLines (topics : List Topic) : List String := List.intercalate [""] (topics.map paragraph)

/-- The help in one of its forms. -/
def text (isLong : Bool) : String :=
  let layout := if isLong then longLines else shortLines
  let helpText :=
    if isLong then "Print help (see a summary with '-h')" else "Print help (see more with '--help')"
  let lines := [about, "", usage, "", "Arguments:"] ++ layout argumentTopics ++
    ["", "Options:"] ++ layout (optionTopics helpText)
  String.join (lines.map (· ++ "\n"))

end Help

end ScriptBundle.CommandLine
