import Mathlib.Data.List.Pairwise
import ScriptBundle.Proofs.Graph.History
import ScriptBundle.Proofs.Graph.Walks
import ScriptBundle.Proofs.Path.Order

/-! Cycles of a graph. Modules that reach each other are grouped, each group behind those that it
reaches; the groups that are reported are those with a way from a member back to itself. -/
namespace ScriptBundle.ModuleGraph

open Relation (TransGen)

variable {g : ModuleGraph} {i j : Nat}

/-- Whether groups are those of the members of a list that reach each other, where no group is reached
from a later one. -/
structure Divides (g : ModuleGraph) (members : List Nat) (groups : List (List Nat)) : Prop where
  all : groups.flatten.Perm members
  filled : ∀ group ∈ groups, group ≠ []
  together : ∀ group ∈ groups, ∀ i ∈ group, ∀ j ∈ group, g.Leads i j
  apart : groups.Pairwise fun first later => ∀ i ∈ first, ∀ j ∈ later, ¬g.Leads j i

/-- What is left of a ranked list without those that reach, and are reached from, its first member. -/
theorem Ranked.rest {rest : List Nat} (ranked : g.Ranked (i :: rest)) {p : Nat → Bool}
    (decides : ∀ j ∈ rest, p j = false ↔ g.Leads i j ∧ g.Leads j i) : g.Ranked (rest.filter p) := by
  intro before a after split b behind leads
  obtain ⟨front, back, rfl, rfl, tail⟩ := List.filter_eq_append_iff.mp split
  obtain ⟨skipped, later, rfl, dropped, -, rfl⟩ := List.filter_eq_cons_iff.mp tail
  obtain ⟨inside, chosen⟩ := List.mem_filter.mp behind
  have place : i :: (front ++ (skipped ++ a :: later)) =
      (i :: (front ++ skipped)) ++ a :: later := by simp
  obtain ⟨d, member, there, back⟩ := ranked _ a later place b inside leads
  have different : ¬(g.Leads i b ∧ g.Leads b i) := by
    rw [← decides b (by simp [inside]), chosen]
    simp
  have known : d ∈ front ∨ d ∈ skipped ∨ d = a := by
    have other : d ≠ i := by
      rintro rfl
      exact different ⟨there, back⟩
    simpa [other] using member
  have keeps : p d = true := by
    rw [← Bool.not_eq_false, decides d (by rcases known with h | h | h <;> simp [h])]
    exact fun both => different ⟨both.1.trans there, back.trans both.2⟩
  refine ⟨d, ?_, there, back⟩
  obtain early | late | rfl := known
  · simp [early, keeps]
  · exact absurd keeps (dropped d late)
  · simp

theorem group_divides (closed : g.IsClosed) {fuel : Nat} {members : List Nat}
    (enough : members.length ≤ fuel) (inside : ∀ i ∈ members, i < g.modules.length)
    (ranked : g.Ranked members) : g.Divides members (g.group fuel members) := by
  induction fuel generalizing members with
  | zero =>
    obtain rfl := List.eq_nil_of_length_eq_zero (Nat.le_zero.mp enough)
    constructor <;> simp [group]
  | succ fuel ih =>
    cases members with
    | nil => constructor <;> simp [group]
    | cons i rest =>
      obtain ⟨here, below⟩ := List.forall_mem_cons.mp inside
      rw [group, List.partition_eq_filter_filter]
      dsimp only
      generalize same : (fun j => decide (j ∈ (g.walkFrom [i]).left) && g.reaches j i) = p
      have decides : ∀ j ∈ rest, p j = true ↔ g.Leads i j ∧ g.Leads j i := by
        intro j member
        rw [← same, Bool.and_eq_true, decide_eq_true_eq, reaches_iff closed (below j member),
          mem_left_walkFrom closed (by simpa using here)]
        simp
      have others : ∀ j ∈ rest.filter (not ∘ p), j < g.modules.length :=
        fun j member => below j (List.mem_of_mem_filter member)
      have shorter := List.length_filter_le (not ∘ p) rest
      have divides := ih (by simp only [List.length_cons] at enough; omega) others
        (ranked.rest fun j member => by simpa using decides j member)
      obtain ⟨all, filled, together, apart⟩ := divides
      have leads : ∀ j ∈ i :: rest.filter p, g.Leads i j ∧ g.Leads j i :=
        List.forall_mem_cons.mpr ⟨⟨.refl, .refl⟩, fun j member =>
          (decides j (List.mem_of_mem_filter member)).mp (List.of_mem_filter member)⟩
      refine ⟨?_, List.forall_mem_cons.mpr ⟨by simp, filled⟩,
        List.forall_mem_cons.mpr ⟨fun j member k member' =>
          (leads j member).2.trans (leads k member').1, together⟩,
        List.pairwise_cons.mpr ⟨?_, apart⟩⟩
      · rw [List.flatten_cons, List.cons_append]
        exact (((List.Perm.refl _).append all).trans (List.filter_append_perm p rest)).cons i
      · intro group listed j member k member' leads'
        have other := all.mem_iff.mp (List.mem_flatten.mpr ⟨group, listed, member'⟩)
        obtain ⟨inside', different⟩ := List.mem_filter.mp other
        -- The first member comes with nothing before it, so what reaches it from behind is reached.
        obtain ⟨d, first, there, back⟩ :=
          ranked [] i rest rfl k inside' (leads'.trans (leads j member).2)
        obtain rfl : d = i := by simpa using first
        have chosen := (decides k inside').mpr ⟨there, back⟩
        simp [chosen] at different

/-- The groups of all modules, each behind those that it reaches. -/
theorem components_divide (closed : g.IsClosed) :
    g.Divides (List.range g.modules.length) g.components.reverse := by
  obtain ⟨ranked, all⟩ := ranked_walkFrom closed
  have inside : ∀ i ∈ (g.walkFrom (List.range g.modules.length)).left, i < g.modules.length :=
    fun i member => List.mem_range.mp (all.mem_iff.mp member)
  have divides := group_divides closed (Nat.le_refl _) inside ranked
  rw [components, List.reverse_reverse]
  exact ⟨divides.all.trans all, divides.filled, divides.together, divides.apart⟩

section Numbers

variable {members : List Nat} {groups : List (List Nat)} {group first later : List Nat}

/-- Numbers that reach each other are in one group. -/
theorem Divides.eq_of_leads (divides : g.Divides members groups) (listed : first ∈ groups)
    (listed' : later ∈ groups) (member : i ∈ first) (member' : j ∈ later) (there : g.Leads i j)
    (back : g.Leads j i) : first = later := by
  have apart : groups.Pairwise fun first later =>
      ∀ i ∈ first, ∀ j ∈ later, ¬(g.Leads i j ∧ g.Leads j i) :=
    divides.apart.imp fun never i member j member' both => never i member j member' both.2
  have symmetric : Std.Symm fun first later : List Nat =>
      ∀ i ∈ first, ∀ j ∈ later, ¬(g.Leads i j ∧ g.Leads j i) :=
    ⟨fun _ _ never j member' i member both => never i member j member' ⟨both.2, both.1⟩⟩
  by_contra different
  exact apart.forall listed listed' different i member j member' ⟨there, back⟩

theorem Divides.exists_group (divides : g.Divides members groups) (member : i ∈ members) :
    ∃ group ∈ groups, i ∈ group := List.mem_flatten.mp (divides.all.mem_iff.mpr member)

theorem Divides.nodup (divides : g.Divides members groups) (once : members.Nodup)
    (listed : group ∈ groups) : group.Nodup :=
  (List.nodup_flatten.mp (divides.all.nodup_iff.mpr once)).1 group listed

/-- A group is reported if there is a way from a member back to itself. -/
theorem Divides.isCyclic_iff (divides : g.Divides members groups)
    (whole : ∀ i ∈ members, ∀ j, g.Edge i j → j ∈ members) (once : members.Nodup)
    (listed : group ∈ groups) (member : i ∈ group) :
    g.isCyclic group = true ↔ TransGen g.Edge i i := by
  have inside : i ∈ members := divides.all.mem_iff.mp (List.mem_flatten.mpr ⟨group, listed, member⟩)
  have unique := divides.nodup once listed
  constructor
  · intro cyclic
    have together := divides.together group listed
    -- With another member there is a way there and back.
    have around (j : Nat) (member' : j ∈ group) (different : j ≠ i) : TransGen g.Edge i i := by
      obtain same | there := Relation.reflTransGen_iff_eq_or_transGen.mp (together i member j member')
      · exact absurd same different
      · exact there.trans_left (together j member' i member)
    obtain _ | ⟨j, _ | ⟨k, rest⟩⟩ := group
    · cases member
    · obtain rfl := List.mem_singleton.mp member
      exact .single (by simpa [isCyclic, Edge] using cyclic)
    · by_cases here : j = i
      · refine around k (by simp) ?_
        rintro rfl
        simp [here] at unique
      · exact around j (by simp) here
  · intro around
    obtain ⟨j, edge, back⟩ := TransGen.head'_iff.mp around
    obtain ⟨other, listed', member'⟩ := divides.exists_group (whole i inside j edge)
    obtain rfl := divides.eq_of_leads listed listed' member member' (.single edge) back
    obtain _ | ⟨k, _ | ⟨l, rest⟩⟩ := group
    · cases member
    · obtain rfl := List.mem_singleton.mp member
      obtain rfl := List.mem_singleton.mp member'
      simpa [isCyclic, Edge] using edge
    · rfl

end Numbers

section Names

variable {mentioned : List Path} {links : List (Name × Name)} {a b : Name} {group : List Nat}

/-- Whether recorded references lead from one name to another, by one reference at least. -/
def Reaches (links : List (Name × Name)) : Name → Name → Prop :=
  TransGen fun source target => (source, target) ∈ links

theorem nodup_names : (names mentioned).Nodup := nodup_eraseDups _

theorem number_getElem (inside : i < (names mentioned).length) :
    number mentioned (names mentioned)[i] = i := nodup_names.idxOf_getElem i inside

namespace Records

theorem isClosed (records : Records g mentioned links) : g.IsClosed := by
  intro i j edge
  rw [Edge, records.edges, List.mem_map] at edge
  obtain ⟨l, member, same⟩ := edge
  obtain ⟨rfl, rfl⟩ := Prod.mk.inj same
  obtain ⟨source, target⟩ := records.ends l (List.mem_eraseDups.mp member)
  rw [records.length_modules]
  exact ⟨List.idxOf_lt_length_iff.mpr source, List.idxOf_lt_length_iff.mpr target⟩

theorem edge_iff (records : Records g mentioned links) (source : a ∈ names mentioned)
    (target : b ∈ names mentioned) :
    g.Edge (number mentioned a) (number mentioned b) ↔ (a, b) ∈ links :=
  records.mem_edges_iff (l := (a, b)) source target

/-- Ways between names are ways between their numbers. -/
theorem reaches_iff (records : Records g mentioned links) (source : a ∈ names mentioned)
    (target : b ∈ names mentioned) :
    Reaches links a b ↔ TransGen g.Edge (number mentioned a) (number mentioned b) := by
  constructor
  · intro path
    refine path.lift (number mentioned) fun s t recorded => ?_
    obtain ⟨known, known'⟩ := records.ends _ recorded
    exact (records.edge_iff known known').mpr recorded
  · intro path
    generalize here : number mentioned b = j at path
    induction path generalizing b with
    | single edge =>
      rw [← here] at edge
      exact .single ((records.edge_iff source target).mp edge)
    | @tail k _ _ edge ih =>
      have inside := (records.isClosed _ _ edge).1
      rw [records.length_modules] at inside
      have middle : (names mentioned)[k] ∈ names mentioned := List.getElem_mem inside
      rw [← here, ← number_getElem inside] at edge
      exact .tail (ih middle (number_getElem inside)) ((records.edge_iff middle target).mp edge)

theorem mem_names_of_reaches (records : Records g mentioned links) (path : Reaches links a b) :
    a ∈ names mentioned ∧ b ∈ names mentioned := by
  obtain ⟨_, first, -⟩ := TransGen.head'_iff.mp path
  obtain ⟨_, -, last⟩ := TransGen.tail'_iff.mp path
  exact ⟨(records.ends _ first).1, (records.ends _ last).2⟩

theorem map_named (records : Records g mentioned links) (group : List Nat) :
    (g.named group).map Path.components = group.filterMap ((names mentioned)[·]?) := by
  simp only [named, List.map_filterMap, ← records.map_components, List.getElem?_map]

theorem mem_map_named (records : Records g mentioned links) :
    a ∈ (g.named group).map Path.components ↔ a ∈ names mentioned ∧ number mentioned a ∈ group := by
  rw [records.map_named, List.mem_filterMap]
  constructor
  · rintro ⟨i, member, found⟩
    obtain ⟨inside, rfl⟩ := List.getElem?_eq_some_iff.mp found
    exact ⟨List.getElem_mem inside, (number_getElem inside).symm ▸ member⟩
  · exact fun ⟨known, member⟩ => ⟨_, member, List.getElem?_idxOf known⟩

theorem mem_map_sorted (records : Records g mentioned links) :
    a ∈ ((g.named group).mergeSort Path.le).map Path.components ↔
      a ∈ names mentioned ∧ number mentioned a ∈ group := by
  rw [((List.mergeSort_perm _ _).map _).mem_iff, records.mem_map_named]

theorem nodup_map_named (records : Records g mentioned links) (once : group.Nodup) :
    ((g.named group).map Path.components).Nodup := by
  rw [records.map_named]
  refine once.filterMap fun i j a first second => ?_
  obtain ⟨inside, -⟩ := List.getElem?_eq_some_iff.mp first
  exact (List.getElem?_inj inside nodup_names).mp (Eq.trans first second.symm)

/-- Two names belong to one reported group just if each reaches the other. -/
theorem shares_cycle_iff (records : Records g mentioned links) :
    (∃ cycle ∈ g.findCycles, a ∈ cycle.map Path.components ∧ b ∈ cycle.map Path.components) ↔
      Reaches links a b ∧ Reaches links b a := by
  have divides := components_divide records.isClosed
  have whole : ∀ i ∈ List.range g.modules.length, ∀ j, g.Edge i j →
      j ∈ List.range g.modules.length :=
    fun i _ j edge => List.mem_range.mpr (records.isClosed i j edge).2
  constructor
  · rintro ⟨_, reported, first, second⟩
    obtain ⟨group, chosen, rfl⟩ := List.mem_map.mp reported
    obtain ⟨listed, cyclic⟩ := List.mem_filter.mp chosen
    obtain ⟨known, first⟩ := records.mem_map_sorted.mp first
    obtain ⟨known', second⟩ := records.mem_map_sorted.mp second
    have listed' := List.mem_reverse.mpr listed
    have around := fun i member =>
      (divides.isCyclic_iff whole List.nodup_range listed' (i := i) member).mp cyclic
    have together := divides.together group listed'
    rw [records.reaches_iff known known', records.reaches_iff known' known]
    exact ⟨(around _ first).trans_left (together _ first _ second),
      (around _ second).trans_left (together _ second _ first)⟩
  · rintro ⟨there, back⟩
    obtain ⟨known, known'⟩ := records.mem_names_of_reaches there
    rw [records.reaches_iff known known'] at there
    rw [records.reaches_iff known' known] at back
    have numbered (c : Name) (known : c ∈ names mentioned) :
        number mentioned c ∈ List.range g.modules.length := by
      rw [List.mem_range, records.length_modules]
      exact List.idxOf_lt_length_iff.mpr known
    obtain ⟨group, listed, first⟩ := divides.exists_group (numbered a known)
    obtain ⟨group', listed', second⟩ := divides.exists_group (numbered b known')
    obtain rfl :=
      divides.eq_of_leads listed listed' first second there.to_reflTransGen back.to_reflTransGen
    have cyclic := (divides.isCyclic_iff whole List.nodup_range listed first).mpr (there.trans back)
    exact ⟨_, List.mem_map_of_mem (List.mem_filter.mpr ⟨List.mem_reverse.mp listed, cyclic⟩),
      records.mem_map_sorted.mpr ⟨known, first⟩, records.mem_map_sorted.mpr ⟨known', second⟩⟩

/-- A reported group is in order, and its members are spelt as they were mentioned first. -/
theorem of_mem_findCycles (records : Records g mentioned links) {cycle : List Path}
    (reported : cycle ∈ g.findCycles) :
    cycle ≠ [] ∧ (∀ m ∈ cycle, spelling mentioned m.components = some m) ∧
    cycle.Pairwise fun p q => p.le q = true ∧ p.components ≠ q.components := by
  have divides := components_divide records.isClosed
  obtain ⟨group, chosen, rfl⟩ := List.mem_map.mp reported
  have listed := List.mem_reverse.mpr (List.mem_of_mem_filter chosen)
  have sorted := List.mergeSort_perm (g.named group) Path.le
  refine ⟨fun none => ?_, fun m member => ?_, ?_⟩
  · obtain ⟨i, rest, rfl⟩ := List.exists_cons_of_ne_nil (divides.filled group listed)
    have inside := divides.all.mem_iff.mp (List.mem_flatten.mpr ⟨_, listed, List.mem_cons_self⟩)
    have found := List.getElem?_eq_getElem (List.mem_range.mp inside)
    have member : _ ∈ g.named (i :: rest) := List.mem_filterMap.mpr ⟨i, List.mem_cons_self, found⟩
    rw [← sorted.mem_iff, none] at member
    exact List.not_mem_nil member
  · obtain ⟨i, -, found⟩ := List.mem_filterMap.mp (sorted.mem_iff.mp member)
    exact records.spelling_of_mem (List.mem_of_getElem? found)
  · refine (List.pairwise_mergeSort Path.le_trans Path.le_total _).and (List.pairwise_map.mp ?_)
    exact (sorted.map _).nodup_iff.mpr
      (records.nodup_map_named (divides.nodup List.nodup_range listed))

/-- No reported group reaches, or shares a member with, a later one. -/
theorem findCycles_apart (records : Records g mentioned links) :
    g.findCycles.Pairwise fun first later => ∀ a ∈ first.map Path.components,
      ∀ b ∈ later.map Path.components, a ≠ b ∧ ¬Reaches links a b := by
  have apart := List.pairwise_reverse.mp (components_divide records.isClosed).apart
  refine (List.pairwise_map.mpr ((apart.filter _).imp ?_))
  intro first later never a member b member'
  rw [records.mem_map_sorted] at member member'
  have away := never _ member'.2 _ member.2
  refine ⟨fun same => away (same ▸ .refl), fun path => away ?_⟩
  exact ((records.reaches_iff member.1 member'.1).mp path).to_reflTransGen

/-- There is an edge on a cycle just if there is a name that reaches itself. -/
theorem hasCycles_iff (records : Records g mentioned links) :
    g.hasCycles = true ↔ ∃ a, Reaches links a a := by
  simp only [hasCycles, List.any_eq_true, Prod.exists]
  constructor
  · rintro ⟨i, j, edge, back⟩
    obtain ⟨inside, inside'⟩ := records.isClosed i j edge
    rw [ModuleGraph.reaches_iff records.isClosed inside'] at back
    rw [records.length_modules] at inside
    refine ⟨(names mentioned)[i], ?_⟩
    have member := List.getElem_mem inside
    rw [records.reaches_iff member member, number_getElem inside]
    exact .head' edge back
  · rintro ⟨a, path⟩
    obtain ⟨known, -⟩ := records.mem_names_of_reaches path
    obtain ⟨j, edge, back⟩ := TransGen.head'_iff.mp ((records.reaches_iff known known).mp path)
    exact ⟨_, j, edge, (ModuleGraph.reaches_iff records.isClosed (records.isClosed _ j edge).2).mpr back⟩

end Records

end Names

/-- The cycles of a graph that was drawn by some calls are exact. A module belongs to a reported group
just if it reaches itself, and two modules share one just if each reaches the other; every group is
there, in the order of paths, without a module twice and with each module as it was spelt first; and
no group reaches a later one. That there are cycles is said just if some are reported. -/
theorem findCycles_exact (strokes : List Stroke) :
    (∀ cycle ∈ (drawn strokes).findCycles, cycle ≠ [] ∧
      (∀ m ∈ cycle, spelling (mentions strokes) m.components = some m) ∧
      cycle.Pairwise fun p q => p.le q = true ∧ p.components ≠ q.components) ∧
    (∀ a, (∃ cycle ∈ (drawn strokes).findCycles, a ∈ cycle.map Path.components) ↔
      Reaches (links strokes) a a) ∧
    (∀ a b, (∃ cycle ∈ (drawn strokes).findCycles,
        a ∈ cycle.map Path.components ∧ b ∈ cycle.map Path.components) ↔
      Reaches (links strokes) a b ∧ Reaches (links strokes) b a) ∧
    ((drawn strokes).findCycles.Pairwise fun first later => ∀ a ∈ first.map Path.components,
      ∀ b ∈ later.map Path.components, a ≠ b ∧ ¬Reaches (links strokes) a b) ∧
    ((drawn strokes).hasCycles = true ↔ (drawn strokes).findCycles ≠ []) := by
  have records := records_drawn strokes
  have around (a : Name) : (∃ cycle ∈ (drawn strokes).findCycles, a ∈ cycle.map Path.components) ↔
      Reaches (links strokes) a a := by
    simpa using records.shares_cycle_iff (a := a) (b := a)
  refine ⟨fun _ => records.of_mem_findCycles, around, fun _ _ => records.shares_cycle_iff,
    records.findCycles_apart, records.hasCycles_iff.trans ?_⟩
  simp only [← around]
  constructor
  · rintro ⟨a, cycle, reported, -⟩
    exact List.ne_nil_of_mem reported
  · intro some
    obtain ⟨cycle, reported⟩ := List.exists_mem_of_ne_nil _ some
    obtain ⟨m, member⟩ := List.exists_mem_of_ne_nil _ (records.of_mem_findCycles reported).1
    exact ⟨_, cycle, reported, List.mem_map_of_mem member⟩

/-- A module that imports itself stands before the two modules that import each other and it; one that
only imports these is on no cycle. -/
theorem findCycles_exact_chained :
    let calls : List Stroke := [.dependency ⟨"d"⟩ ⟨"a/."⟩, .dependency ⟨"a"⟩ ⟨"b"⟩,
      .dependency ⟨"b//"⟩ ⟨"a"⟩, .dependency ⟨"b"⟩ ⟨"c"⟩, .dependency ⟨"c"⟩ ⟨"c/"⟩]
    (drawn calls).findCycles = [[⟨"c"⟩], [⟨"a/."⟩, ⟨"b"⟩]] ∧ (drawn calls).hasCycles = true ∧
    Reaches (links calls) [.name "a"] [.name "b"] ∧
    Reaches (links calls) [.name "b"] [.name "a"] ∧
    ¬Reaches (links calls) [.name "d"] [.name "d"] := by
  intro calls
  have groups : (drawn calls).components.filter (drawn calls).isCyclic = [[3], [1, 2]] := by decide
  have sorted : ∀ group ∈ [[3], [1, 2]],
      ((drawn calls).named group).Pairwise (Path.le · · = true) := by decide
  have reported : (drawn calls).findCycles = [[⟨"c"⟩], [⟨"a/."⟩, ⟨"b"⟩]] := by
    rw [findCycles, groups, List.map_congr_left fun group member =>
      List.mergeSort_of_pairwise (sorted group member)]
    decide
  obtain ⟨-, around, shares, -, some⟩ := findCycles_exact calls
  simp only [reported] at around shares some
  have both := (shares [.name "a"] [.name "b"]).mp
    ⟨[⟨"a/."⟩, ⟨"b"⟩], by simp, by decide, by decide⟩
  exact ⟨reported, some.mpr (by simp), both.1, both.2, (around _).not.mp (by decide)⟩

end ScriptBundle.ModuleGraph
