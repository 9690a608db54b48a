/-! Documents of the settings notation, as trees of tables. A table remembers how it came about,
because that decides what may still be added to it. Scalars are texts and flags: no setting holds
a number or a date, so a document with one is refused in any case. -/
namespace ScriptBundle.Toml

/-- How a table came about: written in braces, by a dotted key, on the way to a header, or by a
header of its own. -/
inductive Origin where
  | braces
  | dotted
  | implied
  | header
  deriving DecidableEq, Inhabited, Repr

inductive Value where
  | text (content : String)
  | flag (on : Bool)
  | list (items : List Value)
  | tables (items : List (List (String × Value)))
  | table (origin : Origin) (members : List (String × Value))
  deriving Inhabited

abbrev Members := List (String × Value)

/-- The last table of a list replaced by what `update` makes of it. -/
def updateLast (update : Members → Option Members) : List Members → Option (List Members)
  | [] => none
  | [last] => (update last).map ([·])
  | table :: rest => (updateLast update rest).map (table :: ·)

/-- A member set in its place, or added at the end. -/
def assign (name : String) (value : Value) : Members → Members
  | [] => [(name, value)]
  | (other, old) :: rest =>
    if other = name then (name, value) :: rest else (other, old) :: assign name value rest

/-- The members with `update` applied to the table at a path; missing tables are made on the way.
A dotted key may not enter a table that has a header. -/
def descend (dotted : Bool) (update : Members → Option Members) :
    List String → Members → Option Members
  | [], members => update members
  | name :: path, members =>
    match members.lookup name with
    | none => do
      let inner ← descend dotted update path []
      return assign name (.table (if dotted then .dotted else .implied) inner) members
    | some (.table origin inner) => do
      if origin = .braces || (dotted && origin = .header) then none
      let inner ← descend dotted update path inner
      return assign name (.table origin inner) members
    | some (.tables items) => do
      return assign name (.tables (← updateLast (descend dotted update path) items)) members
    | some _ => none

/-- The members with a new one. -/
def addNew (name : String) (value : Value) (members : Members) : Option Members :=
  if (members.lookup name).isSome then none else some (members ++ [(name, value)])

/-- The members with a value under a dotted key; the tables that the key passes must be its own. -/
def addKey (value : Value) : List String → Members → Option Members
  | [], _ => none
  | [name], members => addNew name value members
  | name :: path, members =>
    match members.lookup name with
    | none => do return members ++ [(name, .table .dotted (← addKey value path []))]
    | some (.table .dotted inner) => do
      return assign name (.table .dotted (← addKey value path inner)) members
    | some (.table .implied inner) => do
      if path.length ≤ 1 then none
      return assign name (.table .implied (← addKey value path inner)) members
    | some (.tables items) => do
      if path.length ≤ 1 then none
      return assign name (.tables (← updateLast (addKey value path) items)) members
    | some _ => none

/-- The members with the table of a header opened. -/
def addHeader (name : String) (members : Members) : Option Members :=
  match members.lookup name with
  | none => some (members ++ [(name, .table .header [])])
  | some (.table .implied inner) => some (assign name (.table .header inner) members)
  | some _ => none

/-- The members with one more table in a list of tables. -/
def addToTables (name : String) (members : Members) : Option Members :=
  match members.lookup name with
  | none => some (members ++ [(name, .tables [[]])])
  | some (.tables items) => some (assign name (.tables (items ++ [[]])) members)
  | some _ => none

end ScriptBundle.Toml
