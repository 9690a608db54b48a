import ScriptBundle.ModuleGraph
import ScriptBundle.Proofs.Repetitions

/-! The history of a graph. A graph that was drawn call by call answers as the calls say: a module has
the number and the spelling of its first mention, neighbours come in the order in which references to
or from them were first recorded, and what was drawn before is not drawn again. -/
namespace ScriptBundle.ModuleGraph

/-- What modules are told apart by. -/
abbrev Name := List Path.Component

/-- A call that draws. -/
inductive Stroke where
  | module (m : Path)
  | dependency (source target : Path)
  deriving DecidableEq, Repr

namespace Stroke

def apply (g : ModuleGraph) : Stroke → ModuleGraph
  | .module m => (g.addModule m).1
  | .dependency source target => g.addDependency source target

/-- The modules that a call mentions, in order. -/
def modules : Stroke → List Path
  | .module m => [m]
  | .dependency source target => [source, target]

/-- The reference that a call records, if any. -/
def link? : Stroke → Option (Name × Name)
  | .module _ => none
  | .dependency source target => some (source.components, target.components)

end Stroke

/-- The graph behind some calls. -/
def drawn (strokes : List Stroke) : ModuleGraph := strokes.foldl Stroke.apply .empty

/-- The modules that calls mention, each as often as they do. -/
def mentions (strokes : List Stroke) : List Path := strokes.flatMap Stroke.modules

/-- The references that calls record, each as often as they do. -/
def links (strokes : List Stroke) : List (Name × Name) := strokes.filterMap Stroke.link?

/-- The names of modules, in the order of their first mention. -/
def names (mentioned : List Path) : List Name := (mentioned.map Path.components).eraseDups

/-- The position of a name among those that were mentioned. -/
def number (mentioned : List Path) (name : Name) : Nat := (names mentioned).idxOf name

/-- How a name was spelt first. -/
def spelling (mentioned : List Path) (name : Name) : Option Path :=
  mentioned.find? (·.components == name)

variable {mentioned : List Path} {name : Name} {m s t : Path} {l : Name × Name}

theorem mem_names : name ∈ names mentioned ↔ ∃ m ∈ mentioned, m.components = name := by
  rw [names, List.mem_eraseDups, List.mem_map]

theorem components_mem_names (member : m ∈ mentioned) : m.components ∈ names mentioned :=
  mem_names.mpr ⟨m, member, rfl⟩

theorem exists_spelling (member : name ∈ names mentioned) :
    ∃ m, spelling mentioned name = some m ∧ m.components = name := by
  cases found : spelling mentioned name with
  | none =>
    obtain ⟨m, member, same⟩ := mem_names.mp member
    exact absurd (by simpa using same) (List.find?_eq_none.mp found m member)
  | some m => exact ⟨m, rfl, by simpa using List.find?_some found⟩

theorem map_spelling {known : List Name} (listed : ∀ name ∈ known, name ∈ names mentioned) :
    (known.filterMap (spelling mentioned)).map Path.components = known := by
  induction known with
  | nil => rfl
  | cons name rest ih =>
    obtain ⟨first, others⟩ := List.forall_mem_cons.mp listed
    obtain ⟨m, found, same⟩ := exists_spelling first
    rw [List.filterMap_cons_some found, List.map_cons, same, ih others]

theorem names_concat (mentioned : List Path) (m : Path) : names (mentioned ++ [m]) =
    if m.components ∈ names mentioned then names mentioned else names mentioned ++ [m.components] := by
  simp only [names, List.map_append, List.map_cons, List.map_nil, eraseDups_concat, List.mem_eraseDups]

/-- A name keeps its number. -/
theorem number_append (member : name ∈ names mentioned) (more : List Path) :
    number (mentioned ++ more) name = number mentioned name := by
  rw [number, names, List.map_append, List.eraseDups_append]
  exact List.idxOf_append_of_mem member

theorem number_inj (member : name ∈ names mentioned) {other : Name} :
    number mentioned name = number mentioned other ↔ name = other := List.idxOf_inj member

/-- A name keeps its first spelling. -/
theorem spelling_append (member : name ∈ names mentioned) (more : List Path) :
    spelling (mentioned ++ more) name = spelling mentioned name := by
  obtain ⟨m, found, -⟩ := exists_spelling member
  rw [spelling, List.find?_append, ← spelling, found, Option.some_or]

/-- A new name is spelt as it is mentioned. -/
theorem spelling_concat (new : m.components ∉ names mentioned) :
    spelling (mentioned ++ [m]) m.components = some m := by
  have none : mentioned.find? (·.components == m.components) = none :=
    List.find?_eq_none.mpr fun other member same =>
      new (mem_names.mpr ⟨other, member, by simpa using same⟩)
  rw [spelling, List.find?_append, none, Option.none_or]
  simp

theorem filterMap_spelling_append {known : List Name} (listed : ∀ name ∈ known, name ∈ names mentioned)
    (more : List Path) :
    known.filterMap (spelling (mentioned ++ more)) = known.filterMap (spelling mentioned) :=
  List.filterMap_congr fun name member => spelling_append (listed name member) more

/-- The numbers of the names that a reference leads from and to. -/
def numbers (mentioned : List Path) (l : Name × Name) : Nat × Nat :=
  (number mentioned l.1, number mentioned l.2)

/-- The far ends of the references that have a name at the near end, in the order in which they were
first recorded. -/
def neighbours (links : List (Name × Name)) (near far : Name × Name → Name) (name : Name) :
    List Name := ((links.filter (near · == name)).map far).eraseDups

theorem mem_neighbours {links : List (Name × Name)} {near far : Name × Name → Name} {other : Name} :
    other ∈ neighbours links near far name ↔ ∃ l ∈ links, near l = name ∧ far l = other := by
  simp [neighbours, and_assoc]

/-- A graph that was drawn by mentioning modules and by recording references between them. -/
structure Records (g : ModuleGraph) (mentioned : List Path) (links : List (Name × Name)) : Prop where
  modules : g.modules = (names mentioned).filterMap (spelling mentioned)
  edges : g.edges = links.eraseDups.map (numbers mentioned)
  ends : ∀ l ∈ links, l.1 ∈ names mentioned ∧ l.2 ∈ names mentioned

namespace Records

variable {g : ModuleGraph} {links : List (Name × Name)} {i : Nat}

theorem map_components (records : Records g mentioned links) :
    g.modules.map Path.components = names mentioned := by
  rw [records.modules, map_spelling fun _ member => member]

theorem length_modules (records : Records g mentioned links) :
    g.modules.length = (names mentioned).length := by
  rw [← records.map_components, List.length_map]

theorem index?_eq (records : Records g mentioned links) (m : Path) : g.index? m =
    if m.components ∈ names mentioned then some (number mentioned m.components) else none := by
  have search : g.index? m = (names mentioned).findIdx? (· == m.components) := by
    rw [← records.map_components, List.findIdx?_map]
    rfl
  rw [search]
  split_ifs with known
  · exact List.findIdx?_eq_some_iff_findIdx_eq.mpr ⟨List.idxOf_lt_length_iff.mpr known, rfl⟩
  · rw [List.findIdx?_eq_none_iff]
    intro name member
    simpa using fun same : name = m.components => known (same ▸ member)

theorem addModule_of_mem (records : Records g mentioned links)
    (known : m.components ∈ names mentioned) :
    g.addModule m = (g, number mentioned m.components) := by
  rw [ModuleGraph.addModule, records.index?_eq, if_pos known]

theorem addModule_of_notMem (records : Records g mentioned links)
    (new : m.components ∉ names mentioned) :
    g.addModule m = ({ g with modules := g.modules ++ [m] }, (names mentioned).length) := by
  rw [ModuleGraph.addModule, records.index?_eq, if_neg new, ← records.length_modules]

/-- The number of a module is the position of its first mention. -/
theorem addModule_number (records : Records g mentioned links) (m : Path) :
    (g.addModule m).2 = number (mentioned ++ [m]) m.components := by
  by_cases known : m.components ∈ names mentioned
  · rw [records.addModule_of_mem known, number_append known]
  · rw [records.addModule_of_notMem known, number, names_concat, if_neg known,
      List.idxOf_append, if_neg known]
    simp

/-- Numbers stay as they are when more is mentioned. -/
theorem map_numbers (records : Records g mentioned links) (more : List Path) :
    links.eraseDups.map (numbers (mentioned ++ more)) = links.eraseDups.map (numbers mentioned) := by
  refine List.map_congr_left fun l member => ?_
  obtain ⟨source, target⟩ := records.ends l (List.mem_eraseDups.mp member)
  rw [numbers, numbers, number_append source, number_append target]

theorem ends_append (records : Records g mentioned links) (more : List Path) :
    ∀ l ∈ links, l.1 ∈ names (mentioned ++ more) ∧ l.2 ∈ names (mentioned ++ more) := by
  intro l member
  obtain ⟨source, target⟩ := records.ends l member
  rw [mem_names] at source target
  simp only [mem_names, List.mem_append]
  grind

theorem addModule (records : Records g mentioned links) (m : Path) :
    Records (g.addModule m).1 (mentioned ++ [m]) links := by
  have listed : ∀ name ∈ names mentioned, name ∈ names mentioned := fun _ member => member
  by_cases known : m.components ∈ names mentioned
  · rw [records.addModule_of_mem known]
    refine ⟨?_, by rw [records.edges, records.map_numbers], records.ends_append [m]⟩
    rw [names_concat, if_pos known, filterMap_spelling_append listed, records.modules]
  · rw [records.addModule_of_notMem known]
    refine ⟨?_, by rw [records.edges, records.map_numbers], records.ends_append [m]⟩
    rw [names_concat, if_neg known, List.filterMap_append, filterMap_spelling_append listed,
      records.modules]
    simp [spelling_concat known]

theorem mem_edges_iff (records : Records g mentioned links) (source : l.1 ∈ names mentioned)
    (target : l.2 ∈ names mentioned) : numbers mentioned l ∈ g.edges ↔ l ∈ links := by
  rw [records.edges, List.mem_map]
  constructor
  · rintro ⟨other, member, same⟩
    obtain ⟨first, second⟩ := Prod.mk.inj same.symm
    rw [number_inj source] at first
    rw [number_inj target] at second
    rwa [Prod.ext first second, ← List.mem_eraseDups]
  · exact fun member => ⟨l, List.mem_eraseDups.mpr member, rfl⟩

/-- An edge between two modules of the graph is recorded once. -/
theorem addEdge (records : Records g mentioned links) (source : l.1 ∈ names mentioned)
    (target : l.2 ∈ names mentioned) :
    Records (if numbers mentioned l ∈ g.edges then g
      else { g with edges := g.edges ++ [numbers mentioned l] }) mentioned (links ++ [l]) := by
  have edge := records.mem_edges_iff source target
  have ends : ∀ l' ∈ links ++ [l], l'.1 ∈ names mentioned ∧ l'.2 ∈ names mentioned :=
    List.forall_mem_append.mpr ⟨records.ends, by simpa using ⟨source, target⟩⟩
  split_ifs with known
  · exact ⟨records.modules, by rw [eraseDups_concat, if_pos (edge.mp known), records.edges], ends⟩
  · refine ⟨records.modules, ?_, ends⟩
    rw [eraseDups_concat, if_neg (mt edge.mpr known), List.map_append, ← records.edges]
    rfl

theorem addDependency (records : Records g mentioned links) (s t : Path) :
    Records (g.addDependency s t) (mentioned ++ [s, t]) (links ++ [(s.components, t.components)]) := by
  have both := (records.addModule s).addModule t
  have first := records.addModule_number s
  have second := (records.addModule s).addModule_number t
  rw [List.append_assoc, List.singleton_append] at both second
  have source : s.components ∈ names (mentioned ++ [s]) := components_mem_names (by simp)
  have known := number_append source [t]
  rw [List.append_assoc, List.singleton_append] at known
  rw [← known] at first
  have edge := both.addEdge (l := (s.components, t.components))
    (components_mem_names (by simp)) (components_mem_names (by simp))
  rw [numbers, ← first, ← second] at edge
  exact edge

theorem spelling_of_mem (records : Records g mentioned links) (member : m ∈ g.modules) :
    spelling mentioned m.components = some m := by
  rw [records.modules] at member
  obtain ⟨name, -, found⟩ := List.mem_filterMap.mp member
  have same : m.components = name := by simpa using List.find?_some found
  rw [same, found]

theorem getElem?_number (records : Records g mentioned links) (member : name ∈ names mentioned) :
    g.modules[number mentioned name]? = spelling mentioned name := by
  have found := List.getElem?_idxOf member
  rw [← records.map_components, List.getElem?_map, Option.map_eq_some_iff] at found
  obtain ⟨m, here, same⟩ := found
  rw [records.map_components] at here
  rw [number, here, ← same, records.spelling_of_mem (List.mem_of_getElem? here)]

theorem named_numbers (records : Records g mentioned links) {known : List Name}
    (listed : ∀ name ∈ known, name ∈ names mentioned) :
    g.named (known.map (number mentioned)) = known.filterMap (spelling mentioned) := by
  rw [named, List.filterMap_map]
  exact List.filterMap_congr fun name member => records.getElem?_number (listed name member)

section Neighbours

variable {near far : Name × Name → Name} {near' far' : Nat × Nat → Nat}

theorem named_neighbours (records : Records g mentioned links)
    (ends : ∀ l ∈ links, near l ∈ names mentioned ∧ far l ∈ names mentioned)
    (agree : ∀ l, near' (numbers mentioned l) = number mentioned (near l) ∧
      far' (numbers mentioned l) = number mentioned (far l))
    (apart : ∀ l l', near l = near l' → far l = far l' → l = l') (name : Name) :
    g.named (g.edges.filterMap fun edge =>
        if near' edge = number mentioned name then some (far' edge) else none) =
      (neighbours links near far name).filterMap (spelling mentioned) := by
  have chosen : ∀ l ∈ links.eraseDups,
      (if near' (numbers mentioned l) = number mentioned name then
        some (far' (numbers mentioned l)) else none) =
      if near l = name then some (number mentioned (far l)) else none := by
    intro l member
    obtain ⟨source, -⟩ := ends l (List.mem_eraseDups.mp member)
    rw [(agree l).1, (agree l).2]
    simp only [number_inj source]
  have listed : ∀ other ∈ neighbours links near far name, other ∈ names mentioned := by
    intro other member
    obtain ⟨l, recorded, -, rfl⟩ := mem_neighbours.mp member
    exact (ends l recorded).2
  rw [records.edges, List.filterMap_map, ← records.named_numbers listed]
  refine congrArg g.named ?_
  rw [neighbours, eraseDups_map_filter apart, List.map_map]
  refine (List.filterMap_congr chosen).trans ((filterMap_ite _ _ _).trans ?_)
  simp only [Function.comp_def, beq_eq_decide]

/-- A name that was not mentioned has no neighbours. -/
theorem neighbours_eq_nil (ends : ∀ l ∈ links, near l ∈ names mentioned) (new : name ∉ names mentioned) :
    neighbours links near far name = [] := by
  refine List.eq_nil_iff_forall_not_mem.mpr fun other member => ?_
  obtain ⟨l, recorded, here, -⟩ := mem_neighbours.mp member
  exact new (here ▸ ends l recorded)

end Neighbours

theorem dependenciesOf (records : Records g mentioned links) (m : Path) : g.dependenciesOf m =
    (neighbours links Prod.fst Prod.snd m.components).filterMap (spelling mentioned) := by
  rw [ModuleGraph.dependenciesOf, records.index?_eq]
  split_ifs with known
  · exact records.named_neighbours records.ends (fun _ => ⟨rfl, rfl⟩) (fun _ _ => Prod.ext) _
  · rw [neighbours_eq_nil (fun l member => (records.ends l member).1) known]
    rfl

theorem dependentsOf (records : Records g mentioned links) (m : Path) : g.dependentsOf m =
    (neighbours links Prod.snd Prod.fst m.components).filterMap (spelling mentioned) := by
  rw [ModuleGraph.dependentsOf, records.index?_eq]
  split_ifs with known
  · exact records.named_neighbours (fun l member => (records.ends l member).symm)
      (fun _ => ⟨rfl, rfl⟩) (fun _ _ target source => Prod.ext source target) _
  · rw [neighbours_eq_nil (fun l member => (records.ends l member).2) known]
    rfl

/-- A module is a neighbour of another one just if a reference between them was recorded. -/
theorem mem_map_neighbours {near far : Name × Name → Name}
    (ends : ∀ l ∈ links, far l ∈ names mentioned) {other : Name} :
    other ∈ ((neighbours links near far name).filterMap (spelling mentioned)).map Path.components ↔
      ∃ l ∈ links, near l = name ∧ far l = other := by
  rw [map_spelling, mem_neighbours]
  intro other member
  obtain ⟨l, recorded, -, rfl⟩ := mem_neighbours.mp member
  exact ends l recorded

/-- A known reference is not recorded again. -/
theorem addDependency_of_mem (records : Records g mentioned links)
    (recorded : (s.components, t.components) ∈ links) : g.addDependency s t = g := by
  obtain ⟨source, target⟩ := records.ends _ recorded
  rw [ModuleGraph.addDependency, records.addModule_of_mem source]
  dsimp only
  rw [records.addModule_of_mem target]
  exact if_pos ((records.mem_edges_iff source target).mpr recorded)

end Records

theorem records_drawn (strokes : List Stroke) :
    Records (drawn strokes) (mentions strokes) (links strokes) := by
  induction strokes using List.reverseRecOn with
  | nil => exact ⟨rfl, rfl, by simp [links]⟩
  | append_singleton strokes stroke ih =>
    have drawn_concat : drawn (strokes ++ [stroke]) = stroke.apply (drawn strokes) := by
      simp [drawn]
    have mentions_concat : mentions (strokes ++ [stroke]) = mentions strokes ++ stroke.modules := by
      simp [mentions]
    have links_concat : links (strokes ++ [stroke]) = links strokes ++ stroke.link?.toList := by
      cases here : stroke.link? <;> simp [links, here]
    rw [drawn_concat, mentions_concat, links_concat]
    cases stroke with
    | module m =>
      rw [Stroke.link?, Option.toList_none, List.append_nil]
      exact ih.addModule m
    | dependency s t => exact ih.addDependency s t

/-- Whether a call draws nothing but what was drawn before. -/
def Stroke.IsKnown (strokes : List Stroke) : Stroke → Prop
  | .module m => m.components ∈ names (mentions strokes)
  | .dependency source target => (source.components, target.components) ∈ links strokes

/-- A graph answers as the calls that have drawn it say, where paths with the same components are one
module: it has the modules that were mentioned and the references that were recorded, each once; the
number of a module is the position of its first mention among them and stays so; its neighbours come
in the order in which references were first recorded; and what is drawn again changes nothing. -/
theorem drawn_answers (strokes : List Stroke) :
    (drawn strokes).moduleCount = (names (mentions strokes)).length ∧
    (drawn strokes).dependencyCount = (links strokes).eraseDups.length ∧
    (∀ m, ((drawn strokes).addModule m).2 = number (mentions strokes ++ [m]) m.components) ∧
    (∀ m ∈ mentions strokes, ∀ more,
      ((drawn (strokes ++ more)).addModule m).2 = ((drawn strokes).addModule m).2) ∧
    (∀ m, (drawn strokes).dependenciesOf m =
        (neighbours (links strokes) Prod.fst Prod.snd m.components).filterMap
          (spelling (mentions strokes)) ∧
      (drawn strokes).dependentsOf m =
        (neighbours (links strokes) Prod.snd Prod.fst m.components).filterMap
          (spelling (mentions strokes))) ∧
    (∀ m, m.components ∉ names (mentions strokes) →
      (drawn strokes).dependenciesOf m = [] ∧ (drawn strokes).dependentsOf m = []) ∧
    (∀ s t, (t.components ∈ ((drawn strokes).dependenciesOf s).map Path.components ↔
        (s.components, t.components) ∈ links strokes) ∧
      (s.components ∈ ((drawn strokes).dependentsOf t).map Path.components ↔
        (s.components, t.components) ∈ links strokes)) ∧
    ∀ stroke : Stroke, stroke.IsKnown strokes → stroke.apply (drawn strokes) = drawn strokes := by
  have records := records_drawn strokes
  refine ⟨records.length_modules, ?_, records.addModule_number, ?_,
    fun m => ⟨records.dependenciesOf m, records.dependentsOf m⟩, ?_, ?_, ?_⟩
  · rw [dependencyCount, records.edges, List.length_map]
  · intro m member more
    have known := components_mem_names member
    have later := records_drawn (strokes ++ more)
    have split : mentions (strokes ++ more) = mentions strokes ++ mentions more := by simp [mentions]
    have known' : m.components ∈ names (mentions strokes ++ mentions more) :=
      components_mem_names (List.mem_append_left _ member)
    rw [split] at later
    rw [records.addModule_of_mem known, later.addModule_of_mem known', number_append known]
  · intro m new
    rw [records.dependenciesOf, records.dependentsOf,
      Records.neighbours_eq_nil (fun l member => (records.ends l member).1) new,
      Records.neighbours_eq_nil (fun l member => (records.ends l member).2) new]
    exact ⟨rfl, rfl⟩
  · intro s t
    rw [records.dependenciesOf, records.dependentsOf,
      Records.mem_map_neighbours fun l member => (records.ends l member).2,
      Records.mem_map_neighbours fun l member => (records.ends l member).1]
    simp
  · intro stroke known
    cases stroke with
    | module m => exact congrArg Prod.fst (records.addModule_of_mem known)
    | dependency s t => exact records.addDependency_of_mem known

/-- A module that is spelt in two ways is one module, and one that imports itself is its own neighbour
in both directions. -/
theorem drawn_answers_respelt :
    let calls : List Stroke := [.dependency ⟨"a"⟩ ⟨"b"⟩, .dependency ⟨"a/."⟩ ⟨"c"⟩,
      .dependency ⟨"c"⟩ ⟨"c//"⟩]
    ((drawn (calls ++ [.module ⟨"d"⟩])).addModule ⟨"c"⟩).2 = ((drawn calls).addModule ⟨"c"⟩).2 ∧
    ((drawn calls).addModule ⟨"c"⟩).2 = 2 ∧
    (drawn calls).dependenciesOf ⟨"a//"⟩ = [⟨"b"⟩, ⟨"c"⟩] ∧
    (drawn calls).dependentsOf ⟨"c"⟩ = [⟨"a"⟩, ⟨"c"⟩] ∧
    (drawn calls).dependenciesOf ⟨"d"⟩ = [] ∧
    (Stroke.dependency ⟨"a"⟩ ⟨"b/"⟩).apply (drawn calls) = drawn calls := by
  intro calls
  obtain ⟨-, -, position, stays, neighbours, unknown, -, again⟩ := drawn_answers calls
  refine ⟨stays _ (by decide) _, (position _).trans (by decide), (neighbours _).1.trans (by decide),
    (neighbours _).2.trans (by decide), (unknown ⟨"d"⟩ (by decide)).1, again _ ?_⟩
  change _ ∈ links calls
  decide

end ScriptBundle.ModuleGraph
