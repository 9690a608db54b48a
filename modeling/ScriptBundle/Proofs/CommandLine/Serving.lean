import Mathlib
import ScriptBundle.CommandLine
import ScriptBundle.Proofs.Bundle.Saving
import ScriptBundle.Proofs.Settings.Loading

/-! The settings of a run. They are those of the layers with the run's own options on top, and a target
that names no edition never gets as far as the making of a bundle: the run ends before, with the disk
as it was. -/
namespace ScriptBundle

open Reporting (Gives)

namespace Settings

/-- Sets the target of the settings in place, unless it is refused. -/
def retarget (target : String) : ExceptT Failure (StateM Settings) Unit := do
  set (← (← get).setTarget target)

theorem setTarget_eq (s : Settings) (target : String) :
    s.setTarget target = (parseTarget target).map fun _ => { s with target } := by
  unfold setTarget
  cases parseTarget target <;> rfl

/-- A target that is refused leaves the settings as they are. -/
theorem retarget_run (target : String) (s : Settings) : (ExceptT.run (retarget target)).run s =
    match parseTarget target with
    | .ok _ => (.ok (), { s with target })
    | .error f => (.error f, s) := by
  change (ExceptT.run (liftM (s.setTarget target) >>= set :
    ExceptT Failure (StateM Settings) Unit)).run s = _
  rw [setTarget_eq]
  cases parseTarget target <;> rfl

end Settings

namespace Bundle

/-- Where the target names an edition, only a bundle error keeps a bundle from being made. -/
theorem made_error {settings : Settings} {disk : Disk} {entry : Path} {f : Failure}
    (valid : ∃ edition, settings.edition = .ok edition) (failed : made settings disk entry = .error f) :
    ∃ context e, f = .within context (.bundle e) := by
  obtain ⟨edition, valid⟩ := valid
  unfold made at failed
  rw [valid] at failed
  change (Except.mapError _ (Build.ofEntry ⟨edition, settings.minify⟩ disk entry).alone >>= _) = _ at failed
  cases built : (Build.ofEntry ⟨edition, settings.minify⟩ disk entry).alone with
  | error e =>
    rw [built] at failed
    cases failed
    exact ⟨_, e, rfl⟩
  | ok build =>
    rw [built] at failed
    change (Except.mapError _ (assemble _ _ build.entrySource build.dependencies) >>= _) = _ at failed
    cases assembled : assemble settings.instantiation settings.minify build.entrySource
        build.dependencies with
    | error e =>
      rw [assembled] at failed
      cases failed
      exact ⟨_, e, rfl⟩
    | ok code =>
      rw [assembled] at failed
      cases failed

end Bundle

theorem Task.Ends.ofExcept {α : Type} {given result : Except Failure α} (same : given = result)
    (disk : Disk) : Task.Ends (liftM given) disk result disk := by
  subst same
  intro log
  cases given <;> rfl

namespace CommandLine

open ScriptBundle.Task (Ends)

/-- Makes the bundle with settings that are decided, and returns what is to be printed. -/
def Options.deliver (o : Options) (settings : Settings) : Task String := do
  match o.output with
  | some output =>
    Bundle.toFile settings o.entry output
    Task.report topic .info ("Bundle created successfully at " ++ output.quoted)
    return ""
  | none =>
    let code ← Task.ofReporting (Bundle.toText settings (← getThe Disk) o.entry)
    Task.report topic .info "Bundle output to stdout"
    return code

section options

variable {o : Options} {settings : Settings}

/-- Options override settings, each its own. -/
theorem refine_eq_ok_iff {settings' : Settings} : o.refine settings = .ok settings' ↔
    (∀ target ∈ o.target, Edition.IsName target) ∧ settings' = {
      target := o.target.getD settings.target
      instantiation := o.instantiation.getD settings.instantiation
      minify := settings.minify || o.minify } := by
  unfold Options.refine
  cases o.target with
  | none => simp [pure, Except.pure, bind, Except.bind, eq_comm]
  | some target =>
    simp only [Settings.setTarget_eq, Option.mem_some_iff, ← exists_parseTarget_iff]
    cases parsed : parseTarget target with
    | error f => simp [parsed, Except.map, bind, Except.bind]
    | ok edition => simp [parsed, Except.map, pure, Except.pure, bind, Except.bind, eq_comm]

/-- Options keep a target that names an edition, and set no other. -/
theorem refine_valid {settings' : Settings} (valid : Edition.IsName settings.target)
    (refined : o.refine settings = .ok settings') : ∃ edition, settings'.edition = .ok edition := by
  obtain ⟨own, rfl⟩ := refine_eq_ok_iff.mp refined
  refine exists_parseTarget_iff.mpr ?_
  cases asked : o.target with
  | none => exact valid
  | some target => exact own target asked

end options

section runs

variable {disk : Disk} {env : Environment} {o : Options}

/-- The settings that a run comes to, or why it ends before. -/
def decided (disk : Disk) (env : Environment) (o : Options) : Except Failure Settings := do
  o.refine (← Settings.loaded disk env o.settings)

theorem loads (disk : Disk) (env : Environment) (o : Options) :
    Ends (Task.ofReporting (Settings.load disk env o.settings)) disk
      (Settings.loaded disk env o.settings) disk :=
  .ofReporting (Settings.load_gives disk env o.settings)

theorem serve_refused {f : Failure} (refused : decided disk env o = .error f) :
    Ends (serve env o) disk (.error f) disk := by
  refine .bind (.report _ _ _ _) (.bind (.report _ _ _ _) (.bind (.report _ _ _ _) ?_))
  refine .bind (.report _ _ _ _) (.bind (.getThe disk) ?_)
  have loading := loads disk env o
  unfold decided at refused
  cases found : Settings.loaded disk env o.settings with
  | error f' =>
    rw [found] at loading refused
    cases refused
    exact .bind_error loading
  | ok settings =>
    rw [found] at loading refused
    exact .bind loading (.bind_error (.ofExcept refused disk))

theorem serve_delivers {settings : Settings} (ready : decided disk env o = .ok settings)
    {result : Except Failure String} {after : Disk}
    (ends : Ends (o.deliver settings) disk result after) : Ends (serve env o) disk result after := by
  obtain ⟨settings', found, refined⟩ := Build.bind_eq_ok.mp ready
  have loading := loads disk env o
  rw [found] at loading
  refine .bind (.report _ _ _ _) (.bind (.report _ _ _ _) (.bind (.report _ _ _ _) ?_))
  refine .bind (.report _ _ _ _) (.bind (.getThe disk) (.bind loading ?_))
  exact .bind (.ofExcept refined disk) (.bind (.report _ _ _ _) ends)

end runs

/-- Settings load if and only if the file that was asked for and the other files that exist write
layers that come to a target that names an edition, and then each setting is that of the first layer
that has it. Layers may be put together in groups, and a target below another one does not count. The
options of a run then override the settings; a target that is refused changes none, and ends the run.
A bundle is made with no other target than one that names an edition, so that only the bundle itself
can fail. -/
theorem serve_settings (disk : Disk) (env : Environment) (o : Options) (log : Log) :
    (∀ settings, Reporting.result (Settings.load disk env o.settings) log = .ok settings ↔ ∃ layers,
      List.Forall₂ (Settings.Source.Holds disk) (Settings.present disk env o.settings) layers ∧
        settings = .ofLayers layers ∧ Edition.IsName settings.target) ∧
    ((∀ a b c : Layer, (a.combine b).combine c = a.combine (b.combine c)) ∧
      (∀ a : Layer, Layer.combine {} a = a ∧ a.combine {} = a) ∧
      ∀ groups : List (List Layer),
        (Layer.combineAll (groups.map Layer.combineAll)).toSettings = .ofLayers groups.flatten) ∧
    (∀ above : List Layer, (∃ high ∈ above, high.target.isSome) → ∀ layer below target,
      Settings.ofLayers (above ++ { layer with target } :: below) =
        .ofLayers (above ++ layer :: below)) ∧
    (∀ settings target, (ExceptT.run (Settings.retarget target)).run settings =
      match parseTarget target with
      | .ok _ => (.ok (), { settings with target })
      | .error f => (.error f, settings)) ∧
    (∀ settings settings', o.refine settings = .ok settings' ↔
      (∀ target ∈ o.target, Edition.IsName target) ∧ settings' = {
        target := o.target.getD settings.target
        instantiation := o.instantiation.getD settings.instantiation
        minify := settings.minify || o.minify }) ∧
    (∀ f, Reporting.result (Settings.load disk env o.settings) log >>= o.refine = .error f →
      (serve env o).outcome disk log = (.error f, disk)) ∧
    ∀ settings, Reporting.result (Settings.load disk env o.settings) log >>= o.refine = .ok settings →
      (∃ edition, settings.edition = .ok edition) ∧
      (∀ f log', Reporting.result (Bundle.make settings disk o.entry) log' = .error f →
        ∃ context e, f = .within context (.bundle e)) ∧
      ∀ result after, Ends (o.deliver settings) disk result after →
        Ends (serve env o) disk result after := by
  rw [Settings.load_gives disk env o.settings log]
  refine ⟨fun settings => Settings.loaded_eq_ok_iff, ⟨Layer.combine_assoc, ?identity, ?groups⟩,
    fun above set layer below target => Settings.ofLayers_overridden set layer below target,
    fun settings target => Settings.retarget_run target settings,
    fun settings settings' => refine_eq_ok_iff, fun f refused => serve_refused refused log,
    fun settings ready => ?served⟩
  case identity => exact fun a => ⟨Layer.empty_combine a, Layer.combine_empty a⟩
  case groups =>
    intro groups
    rw [Layer.combineAll_flatten, Settings.toSettings_combineAll]
  case served =>
    obtain ⟨loaded, found, refined⟩ := Build.bind_eq_ok.mp ready
    obtain ⟨-, -, -, named⟩ := Settings.loaded_eq_ok_iff.mp found
    have valid := refine_valid named refined
    refine ⟨valid, fun f log' failed => ?_, fun result after ends => serve_delivers ready ends⟩
    rw [Bundle.make_gives] at failed
    exact Bundle.made_error valid failed

/-- A disk with all four files of settings; the target in the lowest of them does not exist. -/
def layered : Disk where
  entries := [(["c.toml"], .file "instantiation = \"per-dispatch\"\n".toUTF8),
    (["reqless.toml"], .file "minify = true\ninstantiation = \"cached\"\n".toUTF8),
    (["home"], .directory), (["home", "reqless"], .directory),
    (["home", "reqless", "reqless.toml"], .file "target = \"ES2017\"\n".toUTF8),
    (["etc"], .directory), (["etc", "reqless"], .directory),
    (["etc", "reqless", "reqless.toml"], .file "target = \"es2099\"\n".toUTF8),
    (["m.ts"], .file "import './lost';".toUTF8)]
  workingDirectory := []

/-- Surroundings in which the files of the user and of the system are the ones on that disk. -/
def surroundings : Environment := { home := "", configHome := some "/home", configDirs := some "/etc" }

theorem present_layered : Settings.present layered surroundings (some ⟨"c.toml"⟩) =
    Settings.sources (some ⟨"c.toml"⟩) ⟨"/home/reqless/reqless.toml"⟩
      (some ⟨"/etc/reqless/reqless.toml"⟩) := by
  have listed : "/etc".splitOn ":" = ["/etc"] := by cbv
  have candidates : surroundings.systemCandidates = [⟨"/etc/reqless/reqless.toml"⟩] := by
    change (Environment.listed "/etc").map _ = _
    rw [Environment.listed, listed]
    decide +kernel
  have user : surroundings.userFile = ⟨"/home/reqless/reqless.toml"⟩ := by decide +kernel
  have system : surroundings.systemFile? layered = some ⟨"/etc/reqless/reqless.toml"⟩ := by
    rw [Environment.systemFile?, candidates]
    decide +kernel
  rw [Settings.present, user, system, List.filter_eq_self]
  decide +kernel

theorem load_layered : Reporting.result (Settings.load layered surroundings (some ⟨"c.toml"⟩)) .empty =
    .ok ⟨"ES2017", .perDispatch, true⟩ := by
  rw [Settings.load_gives, Settings.loaded, present_layered]
  decide +kernel

/-- The settings of the four files, and two runs with them: one asks for a target that does not exist,
and the other one bundles a module that imports a missing one. -/
theorem serve_settings_layered :
    Reporting.result (Settings.load layered surroundings (some ⟨"c.toml"⟩)) .empty =
      .ok ⟨"ES2017", .perDispatch, true⟩ ∧
    Settings.ofLayers ([{ target := some "es5" }] ++ [{ target := some "es2099", minify := some true }]) =
      .ofLayers ([{ target := some "es5" }] ++ [{ minify := some true }]) ∧
    (serve surroundings { entry := ⟨"m.ts"⟩, settings := some ⟨"c.toml"⟩, target := some "es1" }).outcome
      layered .empty = (.error (.other
        "Invalid target 'es1'. Supported targets: es3, es5, es2015 .. es2022, esnext"), layered) ∧
    (serve surroundings { entry := ⟨"m.ts"⟩, settings := some ⟨"c.toml"⟩, target := some "es5" }).outcome
      layered .empty = (.error (.within "Failed to bundle \"m.ts\""
        (.bundle (.resolution "./lost" ⟨"/m.ts"⟩))), layered) := by
  refine ⟨?loaded, ?overridden, ?refused, ?served⟩
  case loaded =>
    obtain ⟨loads, -⟩ := serve_settings layered surroundings
      { entry := ⟨"m.ts"⟩, settings := some ⟨"c.toml"⟩ } .empty
    refine (loads _).mpr ⟨[{ instantiation := some .perDispatch },
      { minify := some true, instantiation := some .cached }, { target := some "ES2017" },
      { target := some "es2099" }], Settings.mapM_layer_eq_ok_iff.mp ?_, by decide, .es2017,
      by decide +kernel⟩
    rw [present_layered]
    decide +kernel
  case overridden =>
    obtain ⟨-, -, overridden, -⟩ := serve_settings layered surroundings { entry := ⟨"m.ts"⟩ } .empty
    exact overridden [{ target := some "es5" }] (by decide) { minify := some true } [] (some "es2099")
  case refused =>
    obtain ⟨-, -, -, -, -, refused, -⟩ := serve_settings layered surroundings
      { entry := ⟨"m.ts"⟩, settings := some ⟨"c.toml"⟩, target := some "es1" } .empty
    refine refused _ ?_
    rw [load_layered]
    decide +kernel
  case served =>
    obtain ⟨-, -, -, -, -, -, served⟩ := serve_settings layered surroundings
      { entry := ⟨"m.ts"⟩, settings := some ⟨"c.toml"⟩, target := some "es5" } .empty
    have ready : (Reporting.result (Settings.load layered surroundings (some ⟨"c.toml"⟩)) .empty >>=
        Options.refine { entry := ⟨"m.ts"⟩, settings := some ⟨"c.toml"⟩, target := some "es5" }) =
          .ok ⟨"es5", .perDispatch, true⟩ := by
      rw [load_layered]
      decide +kernel
    obtain ⟨-, -, delivers⟩ := served _ ready
    refine delivers _ _ ?_ .empty
    have failed : (Bundle.made ⟨"es5", .perDispatch, true⟩ layered ⟨"m.ts"⟩).map (·.code) =
        .error (.within "Failed to bundle \"m.ts\"" (.bundle (.resolution "./lost" ⟨"/m.ts"⟩))) := by
      decide +kernel
    have printing := Bundle.toText_gives ⟨"es5", .perDispatch, true⟩ layered ⟨"m.ts"⟩
    rw [failed] at printing
    exact .bind (.getThe layered) (.bind_error (.ofReporting printing))

end CommandLine

end ScriptBundle
