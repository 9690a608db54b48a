import ScriptBundle.Proofs.Disk.Changes

/-! Disks with the same tree. Looking a path up goes by directories and links, so what files hold makes
no difference to where a path leads. -/
namespace ScriptBundle

/-- What an entry is, whatever a file holds. -/
def Entry.outline : Entry → Entry
  | .file _ => .file .empty
  | entry => entry

namespace Disk

/-- What a place holds, whatever a file holds. -/
def outline? (d : Disk) (place : Place) : Option Entry := d.entry? place |>.map Entry.outline

variable {d d' : Disk}

/-- Whether two disks have the same directories, files and links. -/
structure SameTree (d d' : Disk) : Prop where
  outlines : ∀ place, d'.outline? place = d.outline? place
  workingDirectory : d'.workingDirectory = d.workingDirectory

namespace SameTree

theorem cases (same : SameTree d d') (place : Place) : d'.entry? place = d.entry? place ∨
    ∃ content content', d.entry? place = some (.file content) ∧
      d'.entry? place = some (.file content') := by
  have outline := same.outlines place
  unfold outline? at outline
  cases here : d.entry? place with
  | none =>
    rw [here] at outline
    exact .inl (Option.map_eq_none_iff.mp outline)
  | some entry =>
    rw [here] at outline
    obtain ⟨entry', there, equal⟩ := Option.map_eq_some_iff.mp outline
    rw [there]
    cases entry <;> cases entry' <;> simp_all [Entry.outline]

theorem walkOver (same : SameTree d d') {create : Bool}
    {follow follow' : Place → String → List String → Except Fault Place}
    (follows : ∀ place target rest, follow' place target rest = follow place target rest)
    (place : Place) (steps : List String) :
    d'.walkOver create follow' place steps = d.walkOver create follow place steps := by
  induction steps generalizing place with
  | nil => rfl
  | cons step rest ih =>
    rw [Disk.walkOver, Disk.walkOver]
    obtain here | ⟨content, content', here, here'⟩ := same.cases place
    · rw [here]
      cases d.entry? place with
      | none => rfl
      | some entry =>
        cases entry with
        | file content => rfl
        | link target => rfl
        | directory =>
          dsimp only
          obtain below | ⟨content, content', below, below'⟩ := same.cases (place ++ [step])
          · rw [below]
            simp only [ih, follows]
          · rw [below, below']
            simp only [ih]
    · rw [here, here']

theorem walk (same : SameTree d d') (create : Bool) (links : Nat) (place : Place)
    (steps : List String) : d'.walk create links place steps = d.walk create links place steps := by
  induction links generalizing place steps with
  | zero => exact same.walkOver (fun _ _ _ => rfl) place steps
  | succ links ih =>
    refine same.walkOver (fun place target rest => ?_) place steps
    simp only [ih]

theorem locate (same : SameTree d d') (p : Path) : d'.locate p = d.locate p := by
  unfold Disk.locate reach
  simp only [same.walk, same.workingDirectory]

theorem canonicalize (same : SameTree d d') (p : Path) : d'.canonicalize p = d.canonicalize p := by
  unfold Disk.canonicalize
  rw [same.locate]

theorem isFile (same : SameTree d d') (p : Path) : d'.isFile p = d.isFile p := by
  unfold Disk.isFile
  rw [same.locate]
  cases d.locate p with
  | error cause => rfl
  | ok place =>
    obtain here | ⟨content, content', here, here'⟩ := same.cases place
    · simp only [here]
    · simp only [here, here']

theorem isDirectory (same : SameTree d d') (p : Path) : d'.isDirectory p = d.isDirectory p := by
  unfold Disk.isDirectory
  rw [same.locate]
  cases d.locate p with
  | error cause => rfl
  | ok place =>
    obtain here | ⟨content, content', here, here'⟩ := same.cases place
    · simp only [here]
    · simp only [here, here']

theorem hasFile (same : SameTree d d') {identity : Identity} (file : d.HasFile identity) :
    d'.HasFile identity := by
  obtain ⟨place, content, here, rfl⟩ := file
  obtain equal | ⟨-, content', -, here'⟩ := same.cases place
  · exact ⟨place, content, equal.trans here, rfl⟩
  · exact ⟨place, content', here', rfl⟩

/-- Writing over a file leaves the tree. -/
theorem put {place : Place} {old : ByteArray} (here : d.entry? place = some (.file old))
    (new : ByteArray) : d.SameTree (d.put place (.file new)) := by
  have filled : place ≠ [] := ne_nil_of_entry? (d := d) (by simp [here])
  refine ⟨fun other => ?_, rfl⟩
  unfold outline?
  by_cases same : other = place
  · subst same
    rw [entry?_put filled, here]
    rfl
  · rw [entry?_put_ne same]

end SameTree

/-- Without links, a look-up ends at a place with the name that it asks for last. -/
theorem getLast?_walkOver {create : Bool} {follow : Place → String → List String → Except Fault Place}
    (noLinks : ∀ place target, d.entry? place ≠ some (.link target)) {name : String}
    (real : name ≠ "." ∧ name ≠ "..") {place found : Place} {front : List String}
    (walked : d.walkOver create follow place (front ++ [name]) = .ok found) :
    found.getLast? = some name := by
  induction front generalizing place with
  | nil =>
    obtain ⟨-, leads⟩ := (walkOver_cons ..).mp walked
    cases leads with
    | stay here => exact absurd here real.1
    | up here => exact absurd here real.2
    | new _ _ _ _ _ found => simp [found]
    | link target _ _ entered => exact absurd entered (noLinks _ _)
    | down entry _ _ _ _ walked => simp [← Except.ok.inj walked]
  | cons step rest ih =>
    obtain ⟨-, leads⟩ := (walkOver_cons ..).mp walked
    cases leads with
    | stay _ walked => exact ih walked
    | up _ walked => exact ih walked
    | new _ _ _ _ last => simp at last
    | link target _ _ entered => exact absurd entered (noLinks _ _)
    | down entry _ _ _ _ walked => exact ih walked

theorem getLast?_locate (noLinks : ∀ place target, d.entry? place ≠ some (.link target))
    {name : String} (real : name ≠ "." ∧ name ≠ "..") {p : Path} {front : List String}
    (asked : steps p = front ++ [name]) {place : Place} (located : d.locate p = .ok place) : place.getLast? = some name := by
  rw [locate, reach, asked] at located
  split_ifs at located <;> exact getLast?_walkOver noLinks real located

end Disk

end ScriptBundle
