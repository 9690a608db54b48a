import ScriptBundle.Proofs.Bundle.Making
import ScriptBundle.Proofs.Settings.Layers
import ScriptBundle.Settings.Sources

/-! Loading settings as a value. The sources that count are those that exist and the one that was asked
for; if the file of each of them writes a layer, the layers decide, and only the target that they come
to has to be the name of an edition. -/
namespace ScriptBundle

/-- The file of the system's settings, if there is one. -/
def Environment.systemFile? (env : Environment) (disk : Disk) : Option Path :=
  (env.systemCandidates.find? disk.isFile).or
    (if disk.exists? systemFallback then some systemFallback else none)

theorem Environment.systemFile_run (env : Environment) (disk : Disk) (log : Log) :
    ((env.systemFile disk).run log).1 = env.systemFile? disk := by
  unfold systemFile systemFile? Disk.exists?
  cases env.systemCandidates.find? disk.isFile with
  | some file => rfl
  | none =>
    cases disk.locate systemFallback with
    | ok place => rfl
    | error fault => cases fault <;> rfl

namespace Settings

open Reporting (Gives)

/-- Whether a source counts: it was asked for, or its file exists. -/
def Source.counts (disk : Disk) (source : Source) : Bool :=
  source.required || disk.exists? source.path

/-- Whether the file of a source can be read and writes a layer. -/
def Source.Holds (disk : Disk) (source : Source) (layer : Layer) : Prop :=
  ∃ text, disk.readText source.path = .ok text ∧ Layer.ofText? text = some layer

/-- The sources that count, highest first: the file that was asked for, and the files of the project, of
the user and of the system that exist. -/
def present (disk : Disk) (env : Environment) (asked : Option Path) : List Source :=
  (sources asked env.userFile (env.systemFile? disk)).filter (·.counts disk)

/-- The layer of a source, or why there is none. -/
def Source.layer (disk : Disk) (source : Source) : Except Failure Layer :=
  (Layer.load disk source.path).mapError
    (.within ("Failed to load " ++ source.description ++ " from " ++ source.path.quoted))

/-- The settings that a run loads, or why it does not. -/
def loaded (disk : Disk) (env : Environment) (asked : Option Path) : Except Failure Settings := do
  let settings := ofLayers (← (present disk env asked).mapM (Source.layer disk))
  let _ ← settings.edition.mapError
    (.within ("Invalid target in final config: " ++ settings.target))
  return settings

section layers

variable {disk : Disk}

theorem mapError_eq_ok {ε ε' α : Type} {x : Except ε α} {f : ε → ε'} {a : α} :
    x.mapError f = .ok a ↔ x = .ok a := by
  cases x <;> simp [Except.mapError]

theorem Source.layer_eq_ok_iff {source : Source} {layer : Layer} :
    source.layer disk = .ok layer ↔ source.Holds disk layer := by
  unfold Source.layer Source.Holds Layer.load
  rw [mapError_eq_ok]
  cases disk.readText source.path with
  | error fault => simp
  | ok text => cases written : Layer.ofText? text <;> simp [written]

theorem mapM_layer_eq_ok_iff {sources : List Source} {layers : List Layer} :
    sources.mapM (Source.layer disk) = .ok layers ↔
      List.Forall₂ (Source.Holds disk) sources layers := by
  induction sources generalizing layers with
  | nil => cases layers <;> simp [pure, Except.pure]
  | cons source rest ih =>
    rw [List.mapM_cons]
    constructor
    · intro all
      obtain ⟨layer, first, all⟩ := Build.bind_eq_ok.mp all
      obtain ⟨others, later, all⟩ := Build.bind_eq_ok.mp all
      cases all
      exact .cons (Source.layer_eq_ok_iff.mp first) (ih.mp later)
    · rintro (_ | ⟨first, later⟩)
      rw [Source.layer_eq_ok_iff.mpr first, ih.mpr later]
      rfl

theorem loadLayers_gives (disk : Disk) (merged : Layer) (sources : List Source) :
    Gives (loadLayers disk merged sources)
      (((sources.filter (·.counts disk)).mapM (Source.layer disk)).map
        fun layers => merged.combine (Layer.combineAll layers)) := by
  induction sources generalizing merged with
  | nil => exact fun log => congrArg Except.ok (Layer.combine_empty merged).symm
  | cons source rest ih =>
    have skipped : (!source.required && !disk.exists? source.path) = !source.counts disk := by
      simp [Source.counts]
    rw [loadLayers, skipped, List.filter_cons]
    cases source.counts disk with
    | false => exact ih merged
    | true =>
      refine .reporting ?_
      rw [if_pos rfl, List.mapM_cons, Source.layer]
      cases Layer.load disk source.path with
      | error f => exact fun _ => rfl
      | ok layer =>
        have later := ih (merged.combine layer)
        change Gives _ (Except.map _ (List.mapM _ _ >>= fun layers => pure (layer :: layers)))
        cases others : (rest.filter (·.counts disk)).mapM (Source.layer disk) with
        | error f =>
          rw [others] at later
          exact later
        | ok layers =>
          rw [others] at later
          exact fun log => (later log).trans (congrArg Except.ok (Layer.combine_assoc ..))

/-- Loading comes to the settings of the layers, if the target that they come to names an edition. -/
theorem load_gives (disk : Disk) (env : Environment) (asked : Option Path) :
    Gives (load disk env asked) (loaded disk env asked) := by
  refine .lift_bind (env.systemFile_run disk) ?_
  have layers := loadLayers_gives disk {} (sources asked env.userFile (env.systemFile? disk))
  have merged : loaded disk env asked =
      (((present disk env asked).mapM (Source.layer disk)).map
        fun layers => Layer.combine {} (Layer.combineAll layers)) >>= fun merged =>
          (merged.toSettings.edition.mapError (.within
            ("Invalid target in final config: " ++ merged.toSettings.target))).map
              fun _ => merged.toSettings := by
    unfold loaded
    cases (present disk env asked).mapM (Source.layer disk) with
    | error f => rfl
    | ok layers =>
      have top : (Layer.combine {} (Layer.combineAll layers)).toSettings = ofLayers layers := by
        rw [Layer.empty_combine, toSettings_combineAll]
      change (Except.mapError _ (ofLayers layers).edition >>= _) = Except.map _ _
      simp only [top]
      cases (ofLayers layers).edition <;> rfl
  rw [merged]
  refine .bind layers fun merged => ?_
  cases edition : merged.toSettings.edition with
  | error f => simp only [edition]; exact fun _ => rfl
  | ok found => simp only [edition]; exact fun _ => rfl

theorem loaded_eq_ok_iff {env : Environment} {asked : Option Path} {settings : Settings} :
    loaded disk env asked = .ok settings ↔ ∃ layers,
      List.Forall₂ (Source.Holds disk) (present disk env asked) layers ∧
        settings = ofLayers layers ∧ Edition.IsName settings.target := by
  simp only [loaded, Build.bind_eq_ok, mapM_layer_eq_ok_iff, ← exists_parseTarget_iff]
  refine exists_congr fun layers => and_congr_right fun _ => ?_
  constructor
  · rintro ⟨edition, valid, same⟩
    cases same
    exact ⟨rfl, edition, mapError_eq_ok.mp valid⟩
  · rintro ⟨rfl, edition, valid⟩
    exact ⟨edition, mapError_eq_ok.mpr valid, rfl⟩

end layers

end Settings

end ScriptBundle
