import ScriptBundle.Log
import ScriptBundle.Text.Blank

/-! Which reports are shown. A filter is a list of rules; a rule admits reports up to a level, of all
topics or of those that start with a name. Of the rules that fit a topic, the one with the longest
name decides. -/
namespace ScriptBundle.Log

/-- A rule admits nothing if it has no level. -/
structure Rule where
  topic : Option String
  level : Option Level
  deriving DecidableEq, Inhabited, Repr

namespace Rule

/-- How much of a topic a rule fixes. -/
def precision (r : Rule) : Nat := (r.topic.map String.utf8ByteSize).getD 0

def fits (r : Rule) (topic : String) : Bool :=
  match r.topic with
  | some start => start.isPrefixOf topic
  | none => true

def admits (r : Rule) (report : Report) : Bool :=
  match r.level with
  | some level => report.level.rank ≤ level.rank
  | none => false

end Rule

/-- Rules, and a text that reports have to contain. -/
structure Filter where
  rules : List Rule
  needle : Option String := none
  deriving DecidableEq, Inhabited, Repr

namespace Filter

/-- The name of a level, in letters of either case; the name for none at all is among them. -/
def level? (name : String) : Option (Option Level) :=
  match name.map Char.toLower with
  | "off" => some none
  | "error" => some (some .error)
  | "warn" => some (some .warn)
  | "info" => some (some .info)
  | "debug" => some (some .debug)
  | "trace" => some (some .trace)
  | _ => none

/-- The rule that a part of a filter's text writes, or the piece of it that is wrong. -/
def rule (text : String) : Except String Rule :=
  match text.splitOn "=" with
  | [name] =>
    match level? name with
    | some level => .ok ⟨none, level⟩
    | none => .ok ⟨some name, some .trace⟩
  | [name, level] =>
    let level := Text.trimmed level
    if level = "" then .ok ⟨some name, some .trace⟩
    else match level? level with
      | some level => .ok ⟨some name, level⟩
      | none => .error level
  | _ => .error text

/-- The rules with one more, which takes the place of one for the same topic. -/
def insert (rules : List Rule) (r : Rule) : List Rule :=
  if rules.any (·.topic = r.topic) then rules.map fun old => if old.topic = r.topic then r else old
  else rules ++ [r]

/-- The rules in the parts of a text. -/
def rulesOf (text : String) : List (Except String Rule) :=
  (((text.splitOn ",").map Text.trimmed).filter (· ≠ "")).map rule

/-- A filter that admits errors only, for want of rules. -/
def orErrors (f : Filter) : Filter :=
  if f.rules.isEmpty then { f with rules := [⟨none, some .error⟩] } else f

/-- The line about what is wrong with a filter. -/
def warning (piece reason : String) : String :=
  "warning: invalid logging spec '" ++ piece ++ "'" ++ reason ++ ", ignoring it"

/-- The filter that a text writes, and lines about what is wrong with it. -/
def ofText (text : String) : Filter × List String :=
  let read (rules : String) (needle : Option String) : Filter × List String :=
    let parts := rulesOf rules
    let known := parts.filterMap Except.toOption
    let wrong := parts.filterMap fun
      | .error piece => some (warning piece "")
      | .ok _ => none
    (orErrors { rules := known.foldl insert [], needle }, wrong)
  match text.splitOn "/" with
  | [rules] => read rules none
  | [rules, needle] => read rules (some needle)
  | _ => (orErrors { rules := [] }, [warning text " (too many '/'s)"])

/-- The rule that decides about a topic: of two equally precise ones the later. -/
def deciding? (f : Filter) (topic : String) : Option Rule :=
  (f.rules.filter (·.fits topic)).foldl (fun best r =>
    match best with
    | some b => if b.precision ≤ r.precision then some r else some b
    | none => some r) none

def shows (f : Filter) (report : Report) : Bool :=
  (f.deciding? report.topic).any (·.admits report) &&
    f.needle.all fun needle => (report.text.splitOn needle).length > 1

end Filter

/-- The line that shows a report; further lines of its text are indented. -/
def line (report : Report) : String :=
  "[" ++ report.level.label ++ " " ++ report.topic ++ "] " ++
    "\n    ".intercalate (report.text.splitOn "\n")

/-- The lines of the reports that a filter admits. -/
def shown (log : Log) (filter : Filter) : List String :=
  (log.toList.filter filter.shows).map line

end ScriptBundle.Log
