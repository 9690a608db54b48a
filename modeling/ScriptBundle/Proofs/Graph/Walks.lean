import Mathlib.Data.List.Perm.Subperm
import Mathlib.Logic.Relation
import ScriptBundle.ModuleGraph

/-! Depth-first walks. A walk that was started from some modules leaves all that is reached from them,
each once. What it enters below a module it leaves before that module, and what it left earlier has no
edge to any of these; this decides the order in which modules are left. -/
namespace ScriptBundle.ModuleGraph

/-- Whether an edge leads from one number to another. -/
def Edge (g : ModuleGraph) (i j : Nat) : Prop := (i, j) ∈ g.edges

/-- Whether a path of edges, possibly none, leads from one number to another. -/
abbrev Leads (g : ModuleGraph) : Nat → Nat → Prop := Relation.ReflTransGen g.Edge

/-- Whether all edges lead from modules to modules. -/
def IsClosed (g : ModuleGraph) : Prop :=
  ∀ i j, g.Edge i j → i < g.modules.length ∧ j < g.modules.length

/-- Whether behind each member of a list come first some that it leads to, and then some that have no
edges to it and to those. -/
def Nests (g : ModuleGraph) (order : List Nat) : Prop :=
  ∀ before d after, order = before ++ d :: after → ∃ below others, after = below ++ others ∧
    (∀ z ∈ below, g.Leads d z) ∧ ∀ x ∈ others, ∀ y ∈ d :: below, ¬g.Edge x y

/-- What holds of a walk between two visits. -/
structure Walk.Sound (g : ModuleGraph) (walk : Walk) : Prop where
  inside : ∀ i ∈ walk.entered, i < g.modules.length
  once : walk.entered.Nodup
  wasEntered : ∀ i ∈ walk.left, i ∈ walk.entered
  leftOnce : walk.left.Nodup
  closed : ∀ i ∈ walk.left, ∀ j, g.Edge i j → j ∈ walk.entered
  nests : g.Nests walk.left

/-- What visits to some modules add to a walk: new ones that are reached from these are entered and
left. -/
structure Walk.GoesOn (g : ModuleGraph) (roots : List Nat) (walk walk' : Walk) (new : List Nat) :
    Prop where
  left : walk'.left = new ++ walk.left
  entered : ∀ i, i ∈ walk'.entered ↔ i ∈ new ∨ i ∈ walk.entered
  fresh : ∀ i ∈ new, i ∉ walk.entered
  reached : ∀ i ∈ new, ∃ root ∈ roots, g.Leads root i
  arrives : ∀ root ∈ roots, root ∈ walk'.entered
  longer : walk.entered.length ≤ walk'.entered.length

variable {g : ModuleGraph} {i j : Nat}

@[simp] theorem mem_targets : j ∈ g.targets i ↔ g.Edge i j := by
  simp [targets, Edge]

theorem Nests.cons {d : Nat} {below others : List Nat} (nests : g.Nests (below ++ others))
    (leads : ∀ z ∈ below, g.Leads d z) (apart : ∀ x ∈ others, ∀ y ∈ d :: below, ¬g.Edge x y) :
    g.Nests (d :: (below ++ others)) := by
  intro before d' after split
  cases before with
  | nil =>
    obtain ⟨rfl, rfl⟩ := List.cons.inj split
    exact ⟨below, others, rfl, leads, apart⟩
  | cons first before =>
    obtain ⟨-, split⟩ := List.cons.inj split
    exact nests before d' after split

namespace Walk

variable {walk walk' walk'' : Walk} {roots others new more : List Nat}

theorem Sound.empty (g : ModuleGraph) : Sound g {} := by
  constructor <;> simp [Nests]

theorem Sound.length_le (sound : Sound g walk) : walk.entered.length ≤ g.modules.length := by
  have all : walk.entered ⊆ List.range g.modules.length :=
    fun i member => List.mem_range.mpr (sound.inside i member)
  simpa using (List.subperm_of_subset sound.once all).length_le

/-- A new module may be entered. -/
theorem Sound.enter (sound : Sound g walk) (inside : i < g.modules.length) (new : i ∉ walk.entered) :
    Sound g { walk with entered := i :: walk.entered } where
  inside := List.forall_mem_cons.mpr ⟨inside, sound.inside⟩
  once := List.nodup_cons.mpr ⟨new, sound.once⟩
  wasEntered j left := .tail _ (sound.wasEntered j left)
  leftOnce := sound.leftOnce
  closed j left k edge := .tail _ (sound.closed j left k edge)
  nests := sound.nests

theorem GoesOn.refl (g : ModuleGraph) (walk : Walk) : GoesOn g [] walk walk [] := by
  constructor <;> simp

theorem GoesOn.of_mem (known : i ∈ walk.entered) : GoesOn g [i] walk walk [] := by
  constructor <;> simp [known]

theorem GoesOn.trans (first : GoesOn g roots walk walk' new)
    (second : GoesOn g others walk' walk'' more) :
    GoesOn g (roots ++ others) walk walk'' (more ++ new) where
  left := by rw [second.left, first.left, List.append_assoc]
  entered i := by rw [second.entered, first.entered, List.mem_append, or_assoc]
  fresh := by
    refine List.forall_mem_append.mpr ⟨fun i member known => ?_, first.fresh⟩
    exact second.fresh i member ((first.entered i).mpr (.inr known))
  reached := by
    simp only [List.mem_append, or_and_right, exists_or]
    rintro i (member | member)
    · exact .inr (second.reached i member)
    · exact .inl (first.reached i member)
  arrives := by
    refine List.forall_mem_append.mpr ⟨fun root member => ?_, second.arrives⟩
    exact (second.entered root).mpr (.inr (first.arrives root member))
  longer := Nat.le_trans first.longer second.longer

/-- A module may be left when all that its edges lead to was visited. -/
theorem leave (sound : Sound g walk) (new : i ∉ walk.entered)
    (sound' : Sound g walk')
    (goesOn : GoesOn g (g.targets i).reverse { walk with entered := i :: walk.entered } walk' more) :
    Sound g { walk' with left := i :: walk'.left } ∧
    GoesOn g [i] walk { walk' with left := i :: walk'.left } (i :: more) := by
  obtain ⟨left, entered, fresh, reached, arrives, longer⟩ := goesOn
  simp only [List.mem_reverse, mem_targets] at reached arrives
  simp only [List.mem_cons, not_or] at entered fresh
  have here : i ∈ walk'.entered := (entered i).mpr (.inr (.inl rfl))
  have leads : ∀ z ∈ more, g.Leads i z := by
    intro z member
    obtain ⟨root, edge, leads⟩ := reached z member
    exact .head edge leads
  -- What was left before has edges to what was entered before only.
  have apart : ∀ x ∈ walk.left, ∀ y ∈ i :: more, ¬g.Edge x y := by
    intro x member y below edge
    have known := sound.closed x member y edge
    obtain rfl | later := List.mem_cons.mp below
    · exact new known
    · exact (fresh y later).2 known
  constructor
  · refine ⟨sound'.inside, sound'.once, ?_, ?_, ?_, ?_⟩
    · exact List.forall_mem_cons.mpr ⟨here, sound'.wasEntered⟩
    · refine List.nodup_cons.mpr ⟨?_, sound'.leftOnce⟩
      rw [left, List.mem_append, not_or]
      exact ⟨fun member => (fresh i member).1 rfl, fun member => new (sound.wasEntered i member)⟩
    · exact List.forall_mem_cons.mpr ⟨arrives, sound'.closed⟩
    · have nests := sound'.nests
      rw [left] at nests ⊢
      exact nests.cons leads apart
  · refine ⟨by rw [left, List.cons_append], fun j => ?_, ?_, ?_, by simpa using here, ?_⟩
    · rw [entered, List.mem_cons]
      tauto
    · exact List.forall_mem_cons.mpr ⟨new, fun j member => (fresh j member).2⟩
    · simp only [List.mem_singleton, exists_eq_left]
      exact List.forall_mem_cons.mpr ⟨.refl, leads⟩
    · exact Nat.le_of_succ_le longer

end Walk

open Walk (Sound GoesOn)

/-- What one visit to any module keeps and adds, visits to many do. -/
theorem foldl_visit_goesOn {fuel : Nat}
    (one : ∀ walk i, Sound g walk → i < g.modules.length →
      g.modules.length < fuel + walk.entered.length →
      ∃ new, Sound g (g.visit fuel walk i) ∧ GoesOn g [i] walk (g.visit fuel walk i) new)
    {roots : List Nat} (inside : ∀ root ∈ roots, root < g.modules.length) {walk : Walk}
    (sound : Sound g walk) (enough : g.modules.length < fuel + walk.entered.length) :
    ∃ new, Sound g (roots.foldl (g.visit fuel) walk) ∧
      GoesOn g roots walk (roots.foldl (g.visit fuel) walk) new := by
  induction roots generalizing walk with
  | nil => exact ⟨[], sound, .refl g walk⟩
  | cons root rest ih =>
    obtain ⟨here, others⟩ := List.forall_mem_cons.mp inside
    obtain ⟨new, sound', first⟩ := one walk root sound here enough
    have longer := first.longer
    obtain ⟨more, sound'', second⟩ := ih others sound' (by omega)
    exact ⟨more ++ new, sound'', first.trans second⟩

/-- A visit enters and leaves what is new below a module. On the way down every step enters a module,
so the fuel lasts. -/
theorem visit_goesOn (closed : g.IsClosed) {fuel : Nat} {walk : Walk} (sound : Sound g walk)
    (inside : i < g.modules.length) (enough : g.modules.length < fuel + walk.entered.length) :
    ∃ new, Sound g (g.visit fuel walk i) ∧ GoesOn g [i] walk (g.visit fuel walk i) new := by
  induction fuel generalizing walk i with
  | zero =>
    have bound := sound.length_le
    omega
  | succ fuel ih =>
    rw [visit]
    split_ifs with known
    · exact ⟨[], sound, .of_mem known⟩
    · have targets : ∀ j ∈ (g.targets i).reverse, j < g.modules.length := by
        intro j member
        exact (closed i j (by simpa using member)).2
      have deeper : g.modules.length < fuel + (i :: walk.entered).length := by
        simp only [List.length_cons]
        omega
      obtain ⟨more, sound', below⟩ := foldl_visit_goesOn
        (fun walk i sound inside enough => ih sound inside enough) targets
        (sound.enter inside known) deeper
      exact ⟨i :: more, Walk.leave sound known sound' below⟩

variable {roots : List Nat}

theorem walkFrom_goesOn (closed : g.IsClosed) (inside : ∀ root ∈ roots, root < g.modules.length) :
    ∃ new, Sound g (g.walkFrom roots) ∧ GoesOn g roots {} (g.walkFrom roots) new :=
  foldl_visit_goesOn (fun _ _ sound inside enough => visit_goesOn closed sound inside enough) inside
    (.empty g) (by simp)

/-- A walk leaves what is reached from where it starts. -/
theorem mem_left_walkFrom (closed : g.IsClosed) (inside : ∀ root ∈ roots, root < g.modules.length) :
    j ∈ (g.walkFrom roots).left ↔ ∃ root ∈ roots, g.Leads root j := by
  obtain ⟨new, sound, goesOn⟩ := walkFrom_goesOn closed inside
  have left := goesOn.left
  have entered := goesOn.entered
  simp only [List.append_nil] at left
  simp only [List.not_mem_nil, or_false, ← left] at entered
  constructor
  · intro member
    exact goesOn.reached j (left ▸ member)
  · rintro ⟨root, member, leads⟩
    induction leads with
    | refl => exact (entered root).mp (goesOn.arrives root member)
    | tail _ edge ih => exact (entered _).mp (sound.closed _ ih _ edge)

theorem reaches_iff (closed : g.IsClosed) (inside : i < g.modules.length) :
    g.reaches i j = true ↔ g.Leads i j := by
  rw [reaches, decide_eq_true_eq, mem_left_walkFrom closed (by simpa using inside)]
  simp

/-- Whether a member of a list is reached from behind itself only if it comes with or behind one that
reaches, and is reached from, what is there. -/
def Ranked (g : ModuleGraph) (order : List Nat) : Prop :=
  ∀ before a after, order = before ++ a :: after → ∀ b ∈ after, g.Leads b a →
    ∃ d ∈ before ++ [a], g.Leads d b ∧ g.Leads b d

/-- On a path from behind a member to the member, the first module that is not behind it has all those
before it on the path below itself. -/
theorem Nests.exists_above {order before after : List Nat} {a b : Nat} (nests : g.Nests order)
    (once : order.Nodup) (whole : ∀ x ∈ order, ∀ y, g.Edge x y → y ∈ order)
    (split : order = before ++ a :: after) (leads : g.Leads b a) (behind : b ∈ after) :
    ∃ front d back below others, before ++ [a] = front ++ d :: back ∧
      back ++ after = below ++ others ∧ (∀ z ∈ below, g.Leads d z) ∧
      (∀ x ∈ others, ∀ y ∈ d :: below, ¬g.Edge x y) ∧ b ∈ below ∧ g.Leads b d := by
  induction leads using Relation.ReflTransGen.head_induction_on with
  | refl =>
    rw [split] at once
    exact absurd behind (List.nodup_cons.mp (List.nodup_append.mp once).2.1).1
  | @head x c edge _ ih =>
    have known : c ∈ (before ++ [a]) ++ after := by
      have := whole x (by rw [split]; simp [behind]) c edge
      simpa [split] using this
    obtain early | later := List.mem_append.mp known
    · obtain ⟨front, back, parts⟩ := List.append_of_mem early
      have place : order = front ++ c :: (back ++ after) := by
        rw [split, List.append_cons, parts, List.append_assoc, List.cons_append]
      obtain ⟨below, others, same, under, apart⟩ := nests _ _ _ place
      have member : x ∈ below ++ others := same ▸ List.mem_append_right _ behind
      refine ⟨front, c, back, below, others, parts, same, under, apart, ?_, .single edge⟩
      exact (List.mem_append.mp member).resolve_right fun other => apart x other c (.head _) edge
    · obtain ⟨front, d, back, below, others, parts, same, under, apart, inside, leads⟩ := ih later
      have member : x ∈ below ++ others := same ▸ List.mem_append_right _ behind
      refine ⟨front, d, back, below, others, parts, same, under, apart, ?_, .head edge leads⟩
      exact (List.mem_append.mp member).resolve_right fun other =>
        apart x other c (.tail _ inside) edge

theorem Nests.ranked {order : List Nat} (nests : g.Nests order) (once : order.Nodup)
    (whole : ∀ x ∈ order, ∀ y, g.Edge x y → y ∈ order) : g.Ranked order := by
  intro before a after split b behind leads
  obtain ⟨front, d, back, below, -, parts, -, under, -, inside, leads⟩ :=
    nests.exists_above once whole split leads behind
  exact ⟨d, by rw [parts]; simp, under b inside, leads⟩

/-- A walk from all modules leaves them in a ranked order. -/
theorem ranked_walkFrom (closed : g.IsClosed) :
    g.Ranked (g.walkFrom (List.range g.modules.length)).left ∧
    (g.walkFrom (List.range g.modules.length)).left.Perm (List.range g.modules.length) := by
  have inside : ∀ root ∈ List.range g.modules.length, root < g.modules.length := by simp
  obtain ⟨new, sound, -⟩ := walkFrom_goesOn closed inside
  have all (i : Nat) : i ∈ (g.walkFrom (List.range g.modules.length)).left ↔
      i ∈ List.range g.modules.length := by
    rw [mem_left_walkFrom closed inside]
    constructor
    · rintro ⟨root, member, leads⟩
      obtain rfl | ⟨_, -, edge⟩ := leads.cases_tail
      · exact member
      · exact List.mem_range.mpr (closed _ _ edge).2
    · exact fun member => ⟨i, member, .refl⟩
  constructor
  · refine sound.nests.ranked sound.leftOnce fun x member y edge => ?_
    exact (all y).mpr (List.mem_range.mpr (closed x y edge).2)
  · exact (List.perm_ext_iff_of_nodup sound.leftOnce List.nodup_range).mpr all

example : (walkFrom ⟨[⟨"a"⟩, ⟨"b"⟩, ⟨"c"⟩], [(0, 1), (1, 0), (1, 2)]⟩ (List.range 3)).left =
    [0, 1, 2] := by decide +kernel

end ScriptBundle.ModuleGraph
