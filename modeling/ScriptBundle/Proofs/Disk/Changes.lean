import Mathlib.Data.List.Infix
import ScriptBundle.Proofs.Disk.Lookup

/-! Changes of a disk. Setting a place leaves every other place; creating directories, whether it
succeeds or fails half way, adds directories and does nothing else; and what was written to a path is
what the path leads to afterwards, through whatever links it goes. -/
namespace ScriptBundle.Disk

variable {d d' d'' : Disk}

theorem lookup_filter_ne {α : Type} {place other : Place} (differ : other ≠ place)
    (entries : List (Place × α)) :
    (entries.filter (·.1 ≠ place)).lookup other = entries.lookup other := by
  induction entries with
  | nil => rfl
  | cons first rest ih =>
    obtain ⟨held, e⟩ := first
    by_cases dropped : held = place
    · have passed : (other == held) = false := by simpa [dropped] using differ
      rw [List.filter_cons_of_neg (by simpa using dropped), ih, List.lookup_cons, passed]
    · rw [List.filter_cons_of_pos (by simpa using dropped), List.lookup_cons, List.lookup_cons, ih]

theorem entry?_put {place : Place} (filled : place ≠ []) (e : Entry) :
    Disk.entry? (d.put place e) place = some e := by
  unfold entry?
  simp [put, filled]

theorem entry?_put_ne {place other : Place} (differ : other ≠ place) (e : Entry) :
    Disk.entry? (d.put place e) other = d.entry? other := by
  have passed : (other == place) = false := by simpa using differ
  unfold entry?
  rw [put, List.lookup_cons, passed, lookup_filter_ne differ]

/-- Whether a place holds what it held, or is a new directory. -/
def KeptOrMade (before now : Option Entry) : Prop :=
  now = before ∨ before = none ∧ now = some .directory

theorem KeptOrMade.trans {first second third : Option Entry} (early : KeptOrMade first second)
    (late : KeptOrMade second third) : KeptOrMade first third := by
  obtain rfl | ⟨rfl, rfl⟩ := late
  · exact early
  · obtain same | ⟨-, new⟩ := early
    · exact .inr ⟨same.symm, rfl⟩
    · cases new

/-- Whether a disk has become another one by new directories only. -/
structure GainsDirectories (d d' : Disk) : Prop where
  entries : ∀ place, KeptOrMade (d.entry? place) (d'.entry? place)
  workingDirectory : d'.workingDirectory = d.workingDirectory

namespace GainsDirectories

theorem refl (d : Disk) : d.GainsDirectories d := ⟨fun _ => .inl rfl, rfl⟩

theorem trans (first : d.GainsDirectories d') (second : d'.GainsDirectories d'') :
    d.GainsDirectories d'' where
  entries place := (first.entries place).trans (second.entries place)
  workingDirectory := second.workingDirectory.trans first.workingDirectory

theorem put {place : Place} (missing : d.entry? place = none) :
    d.GainsDirectories (d.put place .directory) := by
  have filled : place ≠ [] := ne_nil_of_entry? (d := d) (by simp [missing])
  refine ⟨fun other => ?_, rfl⟩
  by_cases same : other = place
  · subst same
    exact .inr ⟨missing, entry?_put filled _⟩
  · exact .inl (entry?_put_ne same _)

end GainsDirectories

/-! ### Creating directories -/

theorem makeDirectory_gains {p : Path} (made : d.makeDirectory p = .ok d') : d.GainsDirectories d' := by
  unfold makeDirectory at made
  split at made
  · cases made
  · cases named : d.placeOf p with
    | error cause =>
      rw [named] at made
      cases made
    | ok place =>
      simp only [named, bind, Except.bind] at made
      split at made
      next missing =>
        obtain rfl := Except.ok.inj made
        exact .put missing
      next => cases made
  · cases made

theorem ensureDirectory_run (d : Disk) (p : Path) : (ExceptT.run (ensureDirectory p)).run d =
    match d.makeDirectory p with
    | .ok d' => (.ok (), d')
    | .error fault => (if d.isDirectory p then .ok () else .error fault, d) := by
  change StateT.run (ExceptT.run (match d.makeDirectory p with
    | .ok d' => (set d' : Change Unit)
    | .error fault => do if (← get).isDirectory p then return else throw fault)) d = _
  cases d.makeDirectory p with
  | ok d' => rfl
  | error fault =>
    change StateT.run (ExceptT.run (if d.isDirectory p then pure () else throw fault : Change Unit)) d = _
    dsimp only
    split_ifs <;> rfl

/-- A change that adds directories at most, whether it succeeds or fails. -/
def Change.OnlyAdds {α : Type} (change : Change α) : Prop :=
  ∀ d : Disk, d.GainsDirectories ((ExceptT.run change).run d).2

namespace Change.OnlyAdds

variable {α β : Type}

theorem pure (a : α) : OnlyAdds (Pure.pure a) := fun d => .refl d

theorem throw (fault : Fault) : OnlyAdds (throw fault : Change α) := fun d => .refl d

theorem get : OnlyAdds (MonadState.get : Change Disk) := fun d => .refl d

theorem bind {change : Change α} {next : α → Change β} (first : OnlyAdds change)
    (second : ∀ a, OnlyAdds (next a)) : OnlyAdds (change >>= next) := by
  intro d
  have here := first d
  simp only [ExceptT.run_bind, StateT.run_bind]
  change d.GainsDirectories (match (ExceptT.run change).run d with | (r, d') => _ : _ × Disk).2
  cases run : (ExceptT.run change).run d with
  | mk r d' =>
    rw [run] at here
    cases r with
    | error fault => exact here
    | ok a => exact here.trans (second a d')

theorem ensureDirectory (p : Path) : OnlyAdds (ensureDirectory p) := by
  intro d
  rw [ensureDirectory_run]
  cases made : d.makeDirectory p with
  | ok d' => exact makeDirectory_gains made
  | error fault => exact .refl d

theorem makeDirectoriesUpTo (fuel : Nat) (p : Path) : OnlyAdds (makeDirectoriesUpTo fuel p) := by
  induction fuel generalizing p with
  | zero => exact .throw _
  | succ fuel ih =>
    unfold Disk.makeDirectoriesUpTo
    split_ifs
    · refine .bind .get fun d => ?_
      split
      · exact .bind (ih _) fun _ => .ensureDirectory p
      · exact .ensureDirectory p
    · exact .pure ()

theorem makeDirectories (p : Path) : OnlyAdds (makeDirectories p) := makeDirectoriesUpTo _ p

end Change.OnlyAdds

/-! ### Writing files -/

theorem writeBytes_ok {p : Path} {content : ByteArray} (written : d.writeBytes p content = .ok d') :
    ∃ place, d.reach true p = .ok place ∧ d.entry? place ≠ some .directory ∧
      d' = d.put place (.file content) := by
  unfold writeBytes at written
  split_ifs at written with slash
  · cases parent : p.parent? with
    | none =>
      rw [parent] at written
      cases written
    | some above =>
      rw [parent] at written
      dsimp only at written
      split_ifs at written
      · cases written
      · cases located : d.locate above <;> rw [located] at written <;> cases written
  · cases reached : d.reach true p with
    | error cause =>
      rw [reached] at written
      cases written
    | ok place =>
      simp only [reached, bind, Except.bind] at written
      split at written
      next => cases written
      next writable => exact ⟨place, rfl, writable, (Except.ok.inj written).symm⟩

/-- A look-up that starts outside of a place that holds a link never ends there or below: the link is
followed instead. -/
theorem walkOver_outside {create : Bool} {follow : Place → String → List String → Except Fault Place}
    {link : Place} {target : String} (here : d.entry? link = some (.link target))
    (follows : ∀ place target rest found, ¬ link <+: place →
      follow place target rest = .ok found → ¬ link <+: found)
    {place found : Place} {steps : List String} (outside : ¬ link <+: place)
    (walked : d.walkOver create follow place steps = .ok found) : ¬ link <+: found := by
  induction steps generalizing place with
  | nil =>
    obtain rfl := Except.ok.inj walked
    exact outside
  | cons step rest ih =>
    have below (other : d.entry? (place ++ [step]) ≠ some (.link target)) :
        ¬ link <+: place ++ [step] := by
      intro inside
      obtain rfl | inside := List.prefix_concat_iff.mp inside
      · exact other here
      · exact outside inside
    obtain ⟨-, leads⟩ := (walkOver_cons ..).mp walked
    cases leads with
    | stay _ walked => exact ih outside walked
    | up _ walked =>
      exact ih (fun inside => outside (inside.trans (List.dropLast_prefix place))) walked
    | new _ _ missing _ _ found =>
      rw [found]
      exact below (by simp [missing])
    | link _ _ _ _ followed => exact follows _ _ _ _ outside followed
    | down entry _ _ entered other walked =>
      refine ih (below ?_) walked
      rw [entered]
      exact fun same => other target (Option.some.inj same)

theorem walk_outside {create : Bool} {link : Place} {target : String}
    (here : d.entry? link = some (.link target)) {links : Nat} {place found : Place}
    {steps : List String} (outside : ¬ link <+: place)
    (walked : d.walk create links place steps = .ok found) : ¬ link <+: found := by
  have filled : link ≠ [] := ne_nil_of_entry? (d := d) (by simp [here])
  induction links generalizing place found steps with
  | zero => exact walkOver_outside here (by simp) outside walked
  | succ links ih =>
    refine walkOver_outside here ?_ outside walked
    intro place target rest found outside followed
    split_ifs at followed
    · exact ih (by simpa using filled) followed
    · exact ih outside followed

section Written

variable {place : Place} {content : ByteArray}

/-- A look-up that ends at a place, new or not, ends there still when the place holds a file. Was there a
link before, it is not followed any more; but no look-up went through it to end there. -/
theorem walkOver_put (writable : d.entry? place ≠ some .directory)
    {follow follow' : Place → String → List String → Except Fault Place}
    (follows : ∀ above target rest, follow above target rest = .ok place →
      follow' above target rest = .ok place)
    (blocked : ∀ above target rest, d.entry? place = some (.link target) → ¬ place <+: above →
      follow above target rest ≠ .ok place)
    {above : Place} {steps : List String} (walked : d.walkOver true follow above steps = .ok place) :
    (d.put place (.file content)).walkOver false follow' above steps = .ok place := by
  have filled : place ≠ [] := ne_nil_of_entry? writable
  induction steps generalizing above with
  | nil => exact walked
  | cons step rest ih =>
    obtain ⟨directory, leads⟩ := (walkOver_cons ..).mp walked
    have elsewhere : above ≠ place := by
      rintro rfl
      exact writable directory
    refine (walkOver_cons ..).mpr ⟨(entry?_put_ne elsewhere _).trans directory, ?_⟩
    cases leads with
    | stay here walked => exact .stay here (ih walked)
    | up here walked => exact .up here (ih walked)
    | new here up _ _ last found =>
      have file : Disk.entry? (d.put place (.file content)) (above ++ [step]) =
          some (.file content) := by
        rw [← found, entry?_put filled]
      refine .down (.file content) here up file (by simp) ?_
      rw [← found, last, walkOver]
    | link target here up entered followed =>
      have differ : above ++ [step] ≠ place := by
        rintro rfl
        refine blocked above target rest entered (fun inside => ?_) followed
        have shorter := inside.length_le
        simp only [List.length_append, List.length_singleton] at shorter
        omega
      exact .link target here up ((entry?_put_ne differ _).trans entered) (follows _ _ _ followed)
    | down entry here up entered other walked =>
      by_cases same : above ++ [step] = place
      · have file : Disk.entry? (d.put place (.file content)) (above ++ [step]) =
          some (.file content) := by
          rw [same, entry?_put filled]
        exact .down (.file content) here up file (by simp) (ih walked)
      · exact .down entry here up ((entry?_put_ne same _).trans entered) other (ih walked)

theorem walk_put (writable : d.entry? place ≠ some .directory) {links : Nat} {above : Place}
    {steps : List String} (walked : d.walk true links above steps = .ok place) :
    (d.put place (.file content)).walk false links above steps = .ok place := by
  induction links generalizing above steps with
  | zero => exact walkOver_put writable (by simp) (by simp) walked
  | succ links ih =>
    refine walkOver_put writable ?_ ?_ walked
    · intro above target rest followed
      split_ifs at followed ⊢ <;> exact ih followed
    · intro above target rest link outside followed
      have filled : place ≠ [] := ne_nil_of_entry? writable
      refine absurd (List.prefix_refl place) ?_
      split_ifs at followed
      · exact walk_outside link (by simpa using filled) followed
      · exact walk_outside link outside followed

theorem locate_put (writable : d.entry? place ≠ some .directory) {p : Path}
    (reached : d.reach true p = .ok place) :
    (d.put place (.file content)).locate p = .ok place := by
  unfold locate
  unfold reach at reached ⊢
  split_ifs at reached ⊢ <;> exact walk_put writable reached

end Written

end ScriptBundle.Disk
