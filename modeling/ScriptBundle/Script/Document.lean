/-! Printed scripts before the choice between a readable and a compact layout. A document says where
blanks are optional, where lines end and what is indented; rendering keeps or drops all of that at
once. Line ends inside a text belong to the text: what follows them is not indented. -/
namespace ScriptBundle.Script

inductive Document where
  | nil
  | text (text : String)
  /-- A blank that only readers need. -/
  | gap
  /-- The end of a line that only readers need. -/
  | line
  /-- One level further in. -/
  | nest (inner : Document)
  | append (first second : Document)
  deriving Inhabited, Repr

namespace Document

instance : Append Document := ⟨append⟩

instance : Coe String Document := ⟨text⟩

def space : Document := text " "

/-- A blank that is needed in some places only. -/
def blank (isNeeded : Bool) : Document := if isNeeded then space else gap

/-- A document that is written only when it is wanted. -/
def given (isWanted : Bool) (d : Document) : Document := if isWanted then d else nil

def concat : List Document → Document
  | [] => nil
  | d :: rest => d ++ concat rest

def separate (between : Document) : List Document → Document
  | [] => nil
  | [d] => d
  | d :: rest => d ++ between ++ separate between rest

/-- Documents in one line with a comma between two of them. -/
def commas (ds : List Document) : Document := separate ("," ++ gap) ds

/-- Documents one below the other, each on lines of its own. -/
def lines (ds : List Document) : Document := concat (ds.map (line ++ ·))

/-- What is written so far, and whether the last line of it is empty. -/
structure Page where
  written : String
  isLineEmpty : Bool

def Page.write (page : Page) (level : Nat) (text : String) : Page :=
  if text.isEmpty then page
  else if page.isLineEmpty then
    ⟨page.written ++ String.ofList (List.replicate (4 * level) ' ') ++ text, false⟩
  else ⟨page.written ++ text, false⟩

def Page.endLine (page : Page) : Page :=
  if page.isLineEmpty then page else ⟨page.written ++ "\n", true⟩

/-- Writes a document below the margin of a level. -/
def writeTo (isCompact : Bool) (level : Nat) : Document → Page → Page
  | nil, page => page
  | text t, page => page.write (if isCompact then 0 else level) t
  | gap, page => if isCompact then page else page.write level " "
  | line, page => if isCompact then page else page.endLine
  | nest inner, page => inner.writeTo isCompact (level + 1) page
  | append first second, page =>
    second.writeTo isCompact level (first.writeTo isCompact level page)

/-- The text of a document in one of the two layouts. -/
def render (isCompact : Bool) (d : Document) : String := (d.writeTo isCompact 0 ⟨"", true⟩).written

end Document

end ScriptBundle.Script
