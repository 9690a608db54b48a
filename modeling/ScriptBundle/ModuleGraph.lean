import ScriptBundle.Path

/-! Who imports whom. Modules are numbered in the order in which they are first mentioned and edges
are kept in the order in which they are first recorded, so that every question about neighbours is
answered in that order. Cycles are the groups of modules that reach each other. -/
namespace ScriptBundle

structure ModuleGraph where
  modules : List Path := []
  edges : List (Nat × Nat) := []
  deriving Inhabited, Repr

namespace ModuleGraph

def empty : ModuleGraph := {}

/-- The number of a module. -/
def index? (g : ModuleGraph) (module : Path) : Option Nat :=
  g.modules.findIdx? (·.sameComponents module)

/-- The graph with a module, and the module's number. -/
def addModule (g : ModuleGraph) (module : Path) : ModuleGraph × Nat :=
  match g.index? module with
  | some i => (g, i)
  | none => ({ g with modules := g.modules ++ [module] }, g.modules.length)

/-- The graph with an edge from one module to another. -/
def addDependency (g : ModuleGraph) (source target : Path) : ModuleGraph :=
  let (g, i) := g.addModule source
  let (g, j) := g.addModule target
  if (i, j) ∈ g.edges then g else { g with edges := g.edges ++ [(i, j)] }

def moduleCount (g : ModuleGraph) : Nat := g.modules.length

def dependencyCount (g : ModuleGraph) : Nat := g.edges.length

/-- The modules with the given numbers. -/
def named (g : ModuleGraph) (indices : List Nat) : List Path :=
  indices.filterMap (g.modules[·]?)

/-- The targets of the edges from a module, in order. -/
def targets (g : ModuleGraph) (i : Nat) : List Nat :=
  g.edges.filterMap fun (a, b) => if a = i then some b else none

/-- The sources of the edges to a module, in order. -/
def sources (g : ModuleGraph) (i : Nat) : List Nat :=
  g.edges.filterMap fun (a, b) => if b = i then some a else none

/-- The modules that a module imports. -/
def dependenciesOf (g : ModuleGraph) (module : Path) : List Path :=
  match g.index? module with
  | some i => g.named (g.targets i)
  | none => []

/-- The modules that import a module. -/
def dependentsOf (g : ModuleGraph) (module : Path) : List Path :=
  match g.index? module with
  | some i => g.named (g.sources i)
  | none => []

/-- A depth-first walk: what it has entered, and what it has left, last first. -/
structure Walk where
  entered : List Nat := []
  left : List Nat := []
  deriving Inhabited, Repr

/-- The walk after a visit to a module and all that is new below it, at most `fuel` deep. Edges are
followed from the last recorded to the first. -/
def visit (g : ModuleGraph) : Nat → Walk → Nat → Walk
  | 0, walk, _ => walk
  | fuel + 1, walk, i =>
    if i ∈ walk.entered then walk
    else
      let walk := (g.targets i).reverse.foldl (g.visit fuel)
        { walk with entered := i :: walk.entered }
      { walk with left := i :: walk.left }

/-- The walk from each of the given modules in turn; no path without repetition is longer than
there are modules. -/
def walkFrom (g : ModuleGraph) (roots : List Nat) : Walk :=
  roots.foldl (g.visit (g.modules.length + 1)) {}

/-- Whether a path of edges, possibly none, leads from one module to another. -/
def reaches (g : ModuleGraph) (i j : Nat) : Bool := j ∈ (g.walkFrom [i]).left

/-- Whether two modules reach each other. -/
def together (g : ModuleGraph) (i j : Nat) : Bool := g.reaches i j && g.reaches j i

/-- Modules grouped with those that they reach and that reach them; a group stands where its first
member stands. -/
def group (g : ModuleGraph) : Nat → List Nat → List (List Nat)
  | 0, _ => []
  | _, [] => []
  | fuel + 1, i :: rest =>
    let below := (g.walkFrom [i]).left
    let (members, others) := rest.partition fun j => j ∈ below && g.reaches j i
    (i :: members) :: group g fuel others

/-- The strongly connected groups, each after those that it reaches: a group is complete when the
walk leaves the member that it entered first. -/
def components (g : ModuleGraph) : List (List Nat) :=
  let order := (g.walkFrom (List.range g.modules.length)).left
  (g.group order.length order).reverse

/-- Whether some edge lies on a cycle. -/
def hasCycles (g : ModuleGraph) : Bool := g.edges.any fun (i, j) => g.reaches j i

/-- Whether the members of a group import each other, or its only member itself. -/
def isCyclic (g : ModuleGraph) : List Nat → Bool
  | [i] => (i, i) ∈ g.edges
  | _ => true

/-- The groups of modules that import each other, each in the order of paths. -/
def findCycles (g : ModuleGraph) : List (List Path) :=
  (g.components.filter g.isCyclic).map fun members => (g.named members).mergeSort Path.le

end ModuleGraph

end ScriptBundle
