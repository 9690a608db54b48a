import ScriptBundle.Proofs.Disk.Places
import ScriptBundle.Proofs.Graph.History

/-! Graphs of places on a disk. A place is spelt in one way, so such a graph is drawn of the places
themselves, in the order in which they are first mentioned, and of references between them, in the order
in which they are first recorded. Numbers and names of modules are only how a graph keeps them. -/
namespace ScriptBundle.ModuleGraph

open Disk (IsCanonical)

/-- The modules at the two ends of an edge. -/
def ends (g : ModuleGraph) (edge : Nat × Nat) : Option Path × Option Path :=
  (g.modules[edge.1]?, g.modules[edge.2]?)

/-- Whether an edge leads from one module to another. -/
def Joins (g : ModuleGraph) (source target : Path) : Prop :=
  ∃ edge ∈ g.edges, g.ends edge = (some source, some target)

/-- A graph that was drawn by mentioning places and by recording references between them. -/
structure Draws (g : ModuleGraph) (mentioned : List Path) (references : List (Path × Path)) :
    Prop where
  modules : g.modules = mentioned.eraseDups
  edges : g.edges.map g.ends = references.eraseDups.map (Prod.map some some)
  canonical : ∀ m ∈ mentioned, IsCanonical m

/-- The names at the two ends of a reference. -/
def link (reference : Path × Path) : Name × Name := reference.map Path.components Path.components

section Canonical

variable {mentioned : List Path} {references : List (Path × Path)} {m n : Path}
  (canonical : ∀ m ∈ mentioned, IsCanonical m)
include canonical

theorem eq_of_components (first : m ∈ mentioned) (second : n ∈ mentioned)
    (same : m.components = n.components) : m = n := by
  rw [← (canonical m first).sameComponents_iff (canonical n second), Path.sameComponents, same,
    beq_self_eq_true]

/-- A canonical path is spelt as it is. -/
theorem spelling_of_canonical (member : m ∈ mentioned) :
    spelling mentioned m.components = some m := by
  obtain ⟨n, found, same⟩ := exists_spelling (components_mem_names member)
  rw [found, eq_of_components canonical (List.mem_of_find?_eq_some found) member same]

theorem names_of_canonical {ms : List Path} (inside : ∀ m ∈ ms, m ∈ mentioned) :
    names ms = ms.eraseDups.map Path.components :=
  eraseDups_map fun m first n second =>
    eq_of_components canonical (inside m first) (inside n second)

theorem filterMap_spelling {ms : List Path} (inside : ∀ m ∈ ms, m ∈ mentioned) :
    (names ms).filterMap (spelling mentioned) = ms.eraseDups := by
  rw [names_of_canonical canonical inside, List.filterMap_map]
  refine (List.filterMap_congr fun m member => ?_).trans List.filterMap_some
  exact spelling_of_canonical canonical (inside m (List.mem_eraseDups.mp member))

/-- References between canonical paths are told apart by names. -/
theorem eraseDups_map_link (ends : ∀ r ∈ references, r.1 ∈ mentioned ∧ r.2 ∈ mentioned) :
    (references.map link).eraseDups = references.eraseDups.map link := by
  refine eraseDups_map fun r first r' second same => ?_
  obtain ⟨source, target⟩ := Prod.mk.inj same
  exact Prod.ext (eq_of_components canonical (ends r first).1 (ends r' second).1 source)
    (eq_of_components canonical (ends r first).2 (ends r' second).2 target)

end Canonical

variable {g : ModuleGraph} {mentioned : List Path} {references : List (Path × Path)}

/-- What is recorded by names is drawn. -/
theorem Records.draws (records : Records g mentioned (references.map link))
    (canonical : ∀ m ∈ mentioned, IsCanonical m)
    (known : ∀ r ∈ references, r.1 ∈ mentioned ∧ r.2 ∈ mentioned) : Draws g mentioned references := by
  have modules : g.modules = mentioned.eraseDups := by
    rw [records.modules, filterMap_spelling canonical fun _ member => member]
  refine ⟨modules, ?_, canonical⟩
  rw [records.edges, eraseDups_map_link canonical known, List.map_map, List.map_map]
  refine List.map_congr_left fun r member => ?_
  obtain ⟨source, target⟩ := known r (List.mem_eraseDups.mp member)
  have place (m : Path) (member : m ∈ mentioned) :
      g.modules[number mentioned m.components]? = some m :=
    (records.getElem?_number (components_mem_names member)).trans
      (spelling_of_canonical canonical member)
  exact Prod.ext (place _ source) (place _ target)

namespace Draws

variable {m s t : Path} {i : Nat}

theorem nodup_modules (draws : Draws g mentioned references) : g.modules.Nodup := by
  rw [draws.modules]
  exact nodup_eraseDups _

/-- No edge is parallel to another one. -/
theorem nodup_edges (draws : Draws g mentioned references) : g.edges.Nodup := by
  refine List.Nodup.of_map g.ends ?_
  rw [draws.edges]
  refine (nodup_eraseDups references).map ?_
  intro a b same
  simpa [Prod.ext_iff] using same

theorem joins_iff (draws : Draws g mentioned references) :
    g.Joins s t ↔ (s, t) ∈ references := by
  have member : (some s, some t) ∈ g.edges.map g.ends ↔ (s, t) ∈ references := by
    rw [draws.edges, List.mem_map]
    simp [Prod.map]
  rw [← member, List.mem_map, Joins]

/-- Every edge leads from a module to a module. -/
theorem exists_ends (draws : Draws g mentioned references) {edge : Nat × Nat}
    (member : edge ∈ g.edges) : ∃ s t, g.ends edge = (some s, some t) := by
  have known : g.ends edge ∈ references.eraseDups.map (Prod.map some some) := by
    rw [← draws.edges]
    exact List.mem_map_of_mem member
  obtain ⟨⟨s, t⟩, -, named⟩ := List.mem_map.mp known
  exact ⟨s, t, named.symm⟩

/-- The ends of a recorded reference were mentioned. -/
theorem mem_mentioned (draws : Draws g mentioned references) (recorded : (s, t) ∈ references) :
    s ∈ mentioned ∧ t ∈ mentioned := by
  obtain ⟨edge, -, named⟩ := draws.joins_iff.mpr recorded
  obtain ⟨source, target⟩ := Prod.mk.inj named
  have named (m : Path) (member : m ∈ g.modules) : m ∈ mentioned := by
    rwa [draws.modules, List.mem_eraseDups] at member
  exact ⟨named s (List.mem_of_getElem? source), named t (List.mem_of_getElem? target)⟩

/-- A module has the number of its name. -/
theorem number_eq (draws : Draws g mentioned references) (named : g.modules[i]? = some m) :
    number mentioned m.components = i := by
  obtain ⟨inside, rfl⟩ := List.getElem?_eq_some_iff.mp named
  have named : names mentioned = g.modules.map Path.components := by
    rw [draws.modules, names_of_canonical draws.canonical fun _ member => member]
  have once := nodup_eraseDups (mentioned.map Path.components)
  rw [← names, named] at once
  have place := once.idxOf_getElem i (by simpa using inside)
  rw [List.getElem_map] at place
  rwa [number, named]

/-- The number of the module at an end of an edge. -/
def numberAt (mentioned : List Path) (m? : Option Path) : Nat :=
  m?.elim 0 fun m => number mentioned m.components

/-- What is drawn is recorded by names. -/
theorem records (draws : Draws g mentioned references) :
    Records g mentioned (references.map link) := by
  have known : ∀ r ∈ references, r.1 ∈ mentioned ∧ r.2 ∈ mentioned :=
    fun r recorded => draws.mem_mentioned recorded
  refine ⟨by rw [filterMap_spelling draws.canonical fun _ member => member, draws.modules], ?_, ?_⟩
  · have placed : ∀ edge ∈ g.edges,
        (g.ends edge).map (numberAt mentioned) (numberAt mentioned) = edge := by
      intro edge member
      obtain ⟨s, t, named⟩ := draws.exists_ends member
      obtain ⟨source, target⟩ := Prod.mk.inj named
      rw [named]
      exact Prod.ext (draws.number_eq source) (draws.number_eq target)
    calc g.edges = (g.edges.map g.ends).map (Prod.map (numberAt mentioned) (numberAt mentioned)) := by
          rw [List.map_map]
          exact ((List.map_congr_left placed).trans (List.map_id _)).symm
      _ = references.eraseDups.map (numbers mentioned ∘ link) := by
          rw [draws.edges, List.map_map]
          rfl
      _ = (references.map link).eraseDups.map (numbers mentioned) := by
          rw [eraseDups_map_link draws.canonical known, List.map_map]
  · intro l member
    obtain ⟨r, recorded, rfl⟩ := List.mem_map.mp member
    exact ⟨components_mem_names (known r recorded).1, components_mem_names (known r recorded).2⟩

/-- A module that was mentioned is not added again. -/
theorem addModule_of_mem (draws : Draws g mentioned references) (member : m ∈ mentioned) :
    ∃ i, g.addModule m = (g, i) ∧ g.modules[i]? = some m := by
  have known := components_mem_names member
  refine ⟨_, draws.records.addModule_of_mem known, ?_⟩
  rw [draws.records.getElem?_number known, spelling_of_canonical draws.canonical member]

theorem addDependency (draws : Draws g mentioned references) (source : s ∈ mentioned)
    (target : IsCanonical t) :
    Draws (g.addDependency s t) (mentioned ++ [t]) (references ++ [(s, t)]) := by
  have both := draws.records.addDependency s t
  have canonical : ∀ m ∈ mentioned ++ [s, t], IsCanonical m := by
    simpa [or_imp, forall_and, target] using ⟨draws.canonical, draws.canonical s source⟩
  have known : ∀ r ∈ references ++ [(s, t)],
      r.1 ∈ mentioned ++ [s, t] ∧ r.2 ∈ mentioned ++ [s, t] := by
    refine List.forall_mem_append.mpr ⟨fun r recorded => ?_, by simp⟩
    obtain ⟨source, target⟩ := draws.mem_mentioned recorded
    exact ⟨List.mem_append_left _ source, List.mem_append_left _ target⟩
  have drawn : Draws _ (mentioned ++ [s, t]) (references ++ [(s, t)]) :=
    Records.draws (by simpa [link] using both) canonical known
  refine ⟨drawn.modules.trans ?_, drawn.edges, fun m member => canonical m ?_⟩
  · rw [List.append_cons, eraseDups_concat, eraseDups_concat, eraseDups_concat, if_pos source]
    simp [or_iff_left_of_imp (fun same : t = s => same ▸ source)]
  · simp only [List.mem_append, List.mem_cons] at member ⊢
    tauto

theorem addDependencies (draws : Draws g mentioned references) (source : s ∈ mentioned)
    {targets : List Path} (canonical : ∀ t ∈ targets, IsCanonical t) :
    Draws (targets.foldl (·.addDependency s ·) g) (mentioned ++ targets)
      (references ++ targets.map (s, ·)) := by
  induction targets generalizing g mentioned references with
  | nil => simpa using draws
  | cons t rest ih =>
    obtain ⟨first, others⟩ := List.forall_mem_cons.mp canonical
    simpa using ih (draws.addDependency source first) (List.mem_append_left _ source) others

/-- A recorded reference is not recorded again. -/
theorem addDependency_of_mem (draws : Draws g mentioned references)
    (recorded : (s, t) ∈ references) : g.addDependency s t = g :=
  draws.records.addDependency_of_mem (List.mem_map_of_mem (f := link) recorded)

theorem addDependencies_of_mem (draws : Draws g mentioned references) {targets : List Path}
    (recorded : ∀ t ∈ targets, (s, t) ∈ references) :
    targets.foldl (·.addDependency s ·) g = g := by
  induction targets with
  | nil => rfl
  | cons t rest ih =>
    obtain ⟨first, others⟩ := List.forall_mem_cons.mp recorded
    rw [List.foldl_cons, draws.addDependency_of_mem first, ih others]

/-- Neighbours by name are neighbours by place. -/
theorem filterMap_neighbours (draws : Draws g mentioned references) (member : m ∈ mentioned)
    {near far : Path × Path → Path} {near' far' : Name × Name → Name}
    (agree : ∀ r, near' (link r) = (near r).components ∧ far' (link r) = (far r).components)
    (ends : ∀ r ∈ references, near r ∈ mentioned ∧ far r ∈ mentioned)
    (apart : ∀ r r', near r = near r' → far r = far r' → r = r') :
    (ModuleGraph.neighbours (references.map link) near' far' m.components).filterMap
      (spelling mentioned) = (references.eraseDups.filter (near · == m)).map far := by
  have chosen : (references.map link).filter (near' · == m.components) =
      (references.filter (near · == m)).map link := by
    rw [List.filter_map]
    refine congrArg _ (List.filter_congr fun r recorded => ?_)
    rw [Function.comp_apply, (agree r).1, Bool.eq_iff_iff, beq_iff_eq, beq_iff_eq]
    exact ⟨eq_of_components draws.canonical (ends r recorded).1 member, congrArg _⟩
  have named : ((references.filter (near · == m)).map link).map far' =
      ((references.filter (near · == m)).map far).map Path.components := by
    simp only [List.map_map]
    exact List.map_congr_left fun r _ => (agree r).2
  rw [ModuleGraph.neighbours, chosen, named, ← eraseDups_map_filter apart]
  refine filterMap_spelling draws.canonical fun n listed => ?_
  obtain ⟨r, recorded, rfl⟩ := List.mem_map.mp listed
  exact (ends r (List.mem_of_mem_filter recorded)).2

theorem dependenciesOf (draws : Draws g mentioned references) (member : m ∈ mentioned) :
    g.dependenciesOf m = (references.eraseDups.filter (·.1 == m)).map (·.2) := by
  rw [draws.records.dependenciesOf]
  exact draws.filterMap_neighbours member (fun _ => ⟨rfl, rfl⟩)
    (fun r recorded => draws.mem_mentioned recorded) fun _ _ => Prod.ext

theorem dependentsOf (draws : Draws g mentioned references) (member : m ∈ mentioned) :
    g.dependentsOf m = (references.eraseDups.filter (·.2 == m)).map (·.1) := by
  rw [draws.records.dependentsOf]
  exact draws.filterMap_neighbours member (fun _ => ⟨rfl, rfl⟩)
    (fun r recorded => (draws.mem_mentioned recorded).symm)
    fun _ _ target source => Prod.ext source target

end Draws

section Sources

/-- The references of some modules, one module after the other. -/
def referencesOf (f : Path → List Path) (sources : List Path) : List (Path × Path) :=
  sources.flatMap fun m => (f m).map (m, ·)

variable {f : Path → List Path} {sources mentioned : List Path} {g : ModuleGraph} {m d : Path}

theorem mem_referencesOf : (m, d) ∈ referencesOf f sources ↔ m ∈ sources ∧ d ∈ f m := by
  simp [referencesOf]

theorem owner_referencesOf (m : Path) : ∀ r ∈ (f m).map (m, ·), r.1 = m := by simp

/-- A module that records its references again adds none. -/
theorem eraseDups_referencesOf (unique : ∀ m, (f m).Nodup) :
    (referencesOf f sources).eraseDups = referencesOf f sources.eraseDups := by
  refine eraseDups_flatMap (fun m => (unique m).map ?_) owner_referencesOf sources
  intro d d' same
  exact (Prod.mk.inj same).2

theorem Draws.dependenciesOf_eq (draws : Draws g mentioned (referencesOf f sources))
    (unique : ∀ m, (f m).Nodup) (known : m ∈ mentioned) (member : m ∈ sources) :
    g.dependenciesOf m = f m := by
  have own := filter_flatMap_owner (owner_referencesOf (f := f)) (nodup_eraseDups sources)
    (List.mem_eraseDups.mpr member)
  rw [draws.dependenciesOf known, eraseDups_referencesOf unique, referencesOf, own, List.map_map]
  exact List.map_id' (f m)

theorem map_filter_referencesOf (unique : ∀ m, (f m).Nodup) :
    ((referencesOf f sources).filter (·.2 == d)).map (·.1) = sources.filter (d ∈ f ·) := by
  induction sources with
  | nil => rfl
  | cons m rest ih =>
    have first : (((f m).map (m, ·)).filter (·.2 == d)).map (·.1) = if d ∈ f m then [m] else [] := by
      have one := List.Nodup.count (a := d) (unique m)
      simp only [List.filter_map, List.map_map, Function.comp_def, List.filter_beq, one]
      split_ifs <;> rfl
    rw [referencesOf, List.flatMap_cons, List.filter_append, List.map_append, first, List.filter_cons]
    change _ ++ ((referencesOf f rest).filter _).map _ = _
    rw [ih]
    simp only [decide_eq_true_eq]
    split_ifs <;> rfl

theorem Draws.dependentsOf_eq (draws : Draws g mentioned (referencesOf f sources))
    (unique : ∀ m, (f m).Nodup) (known : d ∈ mentioned) :
    g.dependentsOf d = sources.eraseDups.filter (d ∈ f ·) := by
  rw [draws.dependentsOf known, eraseDups_referencesOf unique, map_filter_referencesOf unique]

end Sources

end ScriptBundle.ModuleGraph
