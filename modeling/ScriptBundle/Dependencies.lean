import ScriptBundle.Path

/-! The modules that a bundle holds besides its entry, each once and in the order of their discovery. A
module is visited as soon as its linked text is known. -/
namespace ScriptBundle

/-- A module of a bundle, with its linked text once it was visited. -/
structure Record where
  identity : Identity
  source : Option String := none
  deriving DecidableEq, Inhabited, Repr

def Record.isVisited (r : Record) : Bool := r.source.isSome

structure Dependencies where
  records : List Record := []
  deriving DecidableEq, Inhabited, Repr

namespace Dependencies

def count (d : Dependencies) : Nat := d.records.length

def identities (d : Dependencies) : List Identity := d.records.map (·.identity)

/-- The modules that are still to be visited. -/
def pending (d : Dependencies) : List Identity :=
  (d.records.filter (!·.isVisited)).map (·.identity)

/-- The modules with one more at the end, unless it is one of them. -/
def discover (d : Dependencies) (identity : Identity) : Dependencies :=
  if identity ∈ d.identities then d else ⟨d.records ++ [⟨identity, none⟩]⟩

/-- The modules after a visit to one of them. -/
def complete (d : Dependencies) (identity : Identity) (source : String) : Dependencies :=
  ⟨d.records.map fun r => if r.identity = identity then { r with source := some source } else r⟩

/-- The modules with a record at a position, or at the end if there are fewer. A record of the same
module gives way. -/
def insertAt (d : Dependencies) (position : Nat) (record : Record) : Dependencies :=
  let others := d.records.filter fun r => !r.identity.sameComponents record.identity
  ⟨others.take position ++ record :: others.drop position⟩

def reverse (d : Dependencies) : Dependencies := ⟨d.records.reverse⟩

end Dependencies

end ScriptBundle
