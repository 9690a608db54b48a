import ScriptBundle.Proofs.Disk.Lookup

/-! The places that look-ups reach. On the way down every name is a name of its own, so canonical paths
that are spelt differently are different component by component. -/
namespace ScriptBundle.Disk

open ScriptBundle.Path (Component)

/-- Whether every part of a place is a name that leads down. -/
def IsProper (place : Place) : Prop :=
  ∀ name ∈ place, (name ≠ "" ∧ '/' ∉ name.toList) ∧ name ≠ "." ∧ name ≠ ".."

instance (place : Place) : Decidable (IsProper place) := by
  unfold IsProper
  infer_instance

/-- Whether every step is one piece of a path. -/
def AreSteps (steps : List String) : Prop := ∀ step ∈ steps, step ≠ "" ∧ '/' ∉ step.toList

theorem areSteps_append {first second : List String} (early : AreSteps first)
    (late : AreSteps second) : AreSteps (first ++ second) :=
  List.forall_mem_append.mpr ⟨early, late⟩

theorem areSteps_stepsOf {pieces : List String} (plain : ∀ piece ∈ pieces, '/' ∉ piece.toList) :
    AreSteps (stepsOf pieces) := by
  fun_induction stepsOf pieces with
  | case1 => simp [AreSteps]
  | case2 => simp [AreSteps]
  | case3 piece filled => simpa [AreSteps, filled] using plain
  | case4 rest more ih => exact ih fun piece member => plain piece (.tail _ member)
  | case5 piece rest more filled ih =>
    have later := ih fun piece member => plain piece (.tail _ member)
    exact List.forall_mem_cons.mpr ⟨⟨filled, plain piece (.head _)⟩, later⟩

theorem areSteps_steps (p : Path) : AreSteps (steps p) :=
  areSteps_stepsOf fun _ member => Path.slash_notMem_pieces member

variable {d : Disk} {create : Bool}

/-- Steps lead from proper places to proper places, if links do. -/
theorem isProper_walkOver {follow : Place → String → List String → Except Fault Place}
    (links : ∀ place target rest found, IsProper place → AreSteps rest →
      follow place target rest = .ok found → IsProper found)
    {place found : Place} {steps : List String} (proper : IsProper place) (plain : AreSteps steps)
    (walked : d.walkOver create follow place steps = .ok found) : IsProper found := by
  induction steps generalizing place with
  | nil =>
    obtain rfl := Except.ok.inj walked
    exact proper
  | cons step rest ih =>
    obtain ⟨piece, plain⟩ := List.forall_mem_cons.mp plain
    have below (here : step ≠ ".") (up : step ≠ "..") : IsProper (place ++ [step]) :=
      List.forall_mem_append.mpr ⟨proper, by simpa using ⟨piece, here, up⟩⟩
    obtain ⟨-, leads⟩ := (walkOver_cons ..).mp walked
    cases leads with
    | stay _ walked => exact ih proper plain walked
    | up _ walked =>
      exact ih (fun name member => proper name (List.dropLast_subset _ member)) plain walked
    | new here up _ _ _ found =>
      rw [found]
      exact below here up
    | link target _ _ _ followed => exact links _ _ _ _ proper plain followed
    | down entry here up _ _ walked => exact ih (below here up) plain walked

@[simp] theorem isProper_nil : IsProper [] := by simp [IsProper]

theorem isProper_walk {links : Nat} {place found : Place} {steps : List String}
    (proper : IsProper place) (plain : AreSteps steps)
    (walked : d.walk create links place steps = .ok found) : IsProper found := by
  induction links generalizing place found steps with
  | zero => exact isProper_walkOver (by simp) proper plain walked
  | succ links ih =>
    refine isProper_walkOver ?_ proper plain walked
    intro place target rest found proper plain followed
    have steps := areSteps_append (areSteps_steps ⟨target⟩) plain
    split_ifs at followed
    · exact ih isProper_nil steps followed
    · exact ih proper steps followed

/-- Whether a path is the canonical path of a place. -/
def IsCanonical (p : Path) : Prop := ∃ place, IsProper place ∧ p = canonical place

theorem isCanonical_canonicalize (working : IsProper d.workingDirectory) {p identity : Path}
    (found : d.canonicalize p = .ok identity) : IsCanonical identity := by
  cases located : d.locate p with
  | error cause =>
    rw [canonicalize, located] at found
    cases found
  | ok place =>
    rw [canonicalize, located] at found
    obtain rfl := Except.ok.inj found
    refine ⟨place, ?_, rfl⟩
    rw [locate, reach] at located
    split_ifs at located
    · exact isProper_walk isProper_nil (areSteps_steps p) located
    · exact isProper_walk working (areSteps_steps p) located

theorem componentsOf_proper {place : Place} (proper : IsProper place) :
    Path.componentsOf false place = place.map .name := by
  induction place with
  | nil => rfl
  | cons name rest ih =>
    obtain ⟨⟨⟨filled, -⟩, here, up⟩, proper⟩ := List.forall_mem_cons.mp proper
    simp [Path.componentsOf, Component.ofPiece?, filled, here, up, ih proper]

theorem components_canonical {place : Place} (proper : IsProper place) :
    (canonical place).components = .root :: place.map .name := by
  cases place with
  | nil => decide
  | cons name rest =>
    obtain ⟨⟨⟨filled, plain⟩, -⟩, -⟩ := List.forall_mem_cons.mp proper
    have opens : true = false → (name :: rest).head? ≠ some "" := fun not => Bool.noConfusion not
    obtain ⟨absolute, pieces⟩ := Path.pieces_ofPieces (List.cons_ne_nil name rest)
      (fun piece member => (proper piece member).1.2) opens
    rw [Path.components, canonical, absolute, pieces, if_pos rfl, componentsOf_proper proper]

/-- Canonical paths are the same if their components are. -/
theorem IsCanonical.sameComponents_iff {p q : Path} (hp : IsCanonical p) (hq : IsCanonical q) :
    p.sameComponents q = true ↔ p = q := by
  obtain ⟨place, proper, rfl⟩ := hp
  obtain ⟨other, proper', rfl⟩ := hq
  rw [Path.sameComponents, beq_iff_eq, components_canonical proper, components_canonical proper']
  refine ⟨fun same => ?_, fun same => by rw [← components_canonical proper, same,
    components_canonical proper']⟩
  have names := List.map_injective_iff.mpr (fun _ _ => Component.name.inj) (List.cons.inj same).2
  rw [names]

end ScriptBundle.Disk
