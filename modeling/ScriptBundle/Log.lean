/-! What a run reports on the way. Reports are values, collected in the order in which they arise;
who shows them decides which ones to show. -/
namespace ScriptBundle

/-- How urgent a report is, most urgent first. -/
inductive Level where
  | error
  | warn
  | info
  | debug
  | trace
  deriving DecidableEq, Inhabited, Repr

namespace Level

def rank : Level → Nat
  | .error => 1
  | .warn => 2
  | .info => 3
  | .debug => 4
  | .trace => 5

def label : Level → String
  | .error => "ERROR"
  | .warn => "WARN"
  | .info => "INFO"
  | .debug => "DEBUG"
  | .trace => "TRACE"

def name : Level → String
  | .error => "error"
  | .warn => "warn"
  | .info => "info"
  | .debug => "debug"
  | .trace => "trace"

end Level

/-- One report: its topic is the part of the program that speaks. -/
structure Report where
  level : Level
  topic : String
  text : String
  deriving DecidableEq, Inhabited, Repr

/-- Reports so far, last first. -/
structure Log where
  newest : List Report
  deriving Inhabited

namespace Log

def empty : Log := ⟨[]⟩

def push (log : Log) (report : Report) : Log := ⟨report :: log.newest⟩

/-- All reports in the order in which they arose. -/
def toList (log : Log) : List Report := log.newest.reverse

end Log

end ScriptBundle
