/-! Paths as written text. A path keeps its spelling, which messages show, and has a list of
components, by which two spellings of one place are compared and ordered: repeated separators and
inner `.` pieces name nothing, while `..` is a component of its own and is never folded away. -/
namespace ScriptBundle

/-- A path as it is written. -/
structure Path where
  text : String
  deriving DecidableEq, Inhabited, Repr

namespace Path

/-- What a path is compared by. -/
inductive Component where
  | root
  | here
  | up
  | name (text : String)
  deriving DecidableEq, Inhabited, Repr

/-- The pieces of a text between its separators. -/
def splitSlash : List Char → List (List Char)
  | [] => [[]]
  | c :: cs =>
    if c = '/' then [] :: splitSlash cs
    else match splitSlash cs with
      | [] => [[c]]
      | piece :: pieces => (c :: piece) :: pieces

def isAbsolute (p : Path) : Bool := p.text.toList.head? = some '/'

/-- The pieces of a path after its root separator, if it has one. -/
def pieces (p : Path) : List String :=
  match p.text.toList with
  | '/' :: rest => (splitSlash rest).map String.ofList
  | text => (splitSlash text).map String.ofList

/-- The path with the given pieces. -/
def ofPieces (absolute : Bool) (pieces : List String) : Path :=
  ⟨(if absolute then "/" else "") ++ "/".intercalate pieces⟩

/-- The component a piece stands for; `opens` holds for the first piece of a relative path, the
only place where `.` counts. -/
def Component.ofPiece? (opens : Bool) (piece : String) : Option Component :=
  if piece = "" then none
  else if piece = "." then if opens then some .here else none
  else if piece = ".." then some .up
  else some (.name piece)

/-- The components of a list of pieces. -/
def componentsOf (opens : Bool) : List String → List Component
  | [] => []
  | piece :: rest => (Component.ofPiece? opens piece).toList ++ componentsOf false rest

/-- The components of a path, outermost first. -/
def components (p : Path) : List Component :=
  if p.isAbsolute then .root :: componentsOf false p.pieces else componentsOf true p.pieces

/-- Pieces, last first, without those at the end that name nothing. -/
def dropTrailing (absolute : Bool) : List String → List String
  | [] => []
  | piece :: rest =>
    if (Component.ofPiece? (!absolute && rest.isEmpty) piece).isNone then
      dropTrailing absolute rest
    else piece :: rest

/-- The path without its last component; none for the root and for the empty path. -/
def parent? (p : Path) : Option Path :=
  match dropTrailing p.isAbsolute p.pieces.reverse with
  | [] => none
  | _ :: rest => some (ofPieces p.isAbsolute (dropTrailing p.isAbsolute rest).reverse)

/-- The name at the end of a path, unless it ends in the root, `.` or `..`. -/
def fileName? (p : Path) : Option String :=
  match p.components.getLast? with
  | some (.name text) => some text
  | _ => none

/-- A second path read from the directory that the first one names. -/
def join (base : Path) (written : String) : Path :=
  if (Path.mk written).isAbsolute then ⟨written⟩
  else if base.text = "" ∨ base.text.toList.getLast? = some '/' then ⟨base.text ++ written⟩
  else ⟨base.text ++ "/" ++ written⟩

/-- The first `fuel` paths met on the way up from a path, itself included. -/
def ancestorsUpTo : Nat → Path → List Path
  | 0, _ => []
  | fuel + 1, p => p :: match p.parent? with
    | some above => ancestorsUpTo fuel above
    | none => []

/-- A path and all paths above it, nearest first. -/
def ancestors (p : Path) : List Path := ancestorsUpTo (p.pieces.length + 1) p

/-- The text with a suffix put directly behind it. -/
def withSuffix (p : Path) (suffix : String) : Path := ⟨p.text ++ suffix⟩

/-- The rank of a kind of component in the order of paths. -/
def Component.rank : Component → Nat
  | .root => 0
  | .here => 1
  | .up => 2
  | .name _ => 3

def Component.text : Component → String
  | .name text => text
  | _ => ""

/-- Kinds first, then names by their characters. -/
def Component.le (a b : Component) : Bool :=
  a.rank < b.rank || (a.rank == b.rank && a.text ≤ b.text)

/-- The order of component lists: the first difference decides, a shorter list goes first. -/
def leComponents : List Component → List Component → Bool
  | [], _ => true
  | _ :: _, [] => false
  | a :: as, b :: bs => if a = b then leComponents as bs else a.le b

def le (a b : Path) : Bool := leComponents a.components b.components

/-- Whether two spellings name the same place component by component. -/
def sameComponents (a b : Path) : Bool := a.components == b.components

end Path

/-- A module is known by the canonical path of its file. -/
abbrev Identity := Path

end ScriptBundle
