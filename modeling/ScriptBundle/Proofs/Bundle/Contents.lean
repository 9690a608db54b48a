import ScriptBundle.Proofs.Build.Embedded
import ScriptBundle.Proofs.Bundle.Making
import ScriptBundle.Proofs.Resolution.Manifests

/-! What a bundle depends on. A build reads the modules that it bundles and the manifests; whatever
other files hold, it comes out the same. -/
namespace ScriptBundle

namespace Build

variable {style : Script.Style} {disk disk' : Disk}

theorem alone_congr (same : disk.SameManifests disk') {m : Identity}
    (content : disk'.readBytes m = disk.readBytes m) : alone style disk' m = alone style disk m := by
  unfold alone link
  rw [Disk.readText_congr content]
  simp only [rewriteSource, Rewriting.link_congr same]

/-- There are not more generations than files, so a disk with the same files has fuel for all of them. -/
theorem length_generations_le {entry : Path} {log : Log} {build : Build} (same : disk.SameTree disk')
    (built : ((ofEntry style disk entry).runFrom { log }).1 = .ok build) :
    build.generations.length ≤ disk'.entries.length := by
  obtain ⟨-, -, nonempty, -⟩ := ofEntry_last built
  obtain ⟨last, -, surveyed, -⟩ := ofEntry_surveyed built
  have files : ∀ m ∈ build.dependencies.identities, disk'.HasFile m :=
    fun m member => same.hasFile (surveyed.hasFile (List.mem_append_left _ member))
  have unique : build.dependencies.identities.Nodup := by simpa using surveyed.nodup
  calc build.generations.length ≤ build.generations.flatten.length := length_le_flatten nonempty
    _ = build.dependencies.identities.length := by rw [ofEntry_generations built]
    _ ≤ disk'.files.length := Disk.length_le_files unique files
    _ ≤ disk'.entries.length := disk'.length_files_le

/-- The same modules are found in the same order: each of them links as before, and resolves what it
refers to as before. -/
theorem ofEntry_congr {entry : Path} {log : Log} {build : Build} (same : disk.SameManifests disk')
    (built : ((ofEntry style disk entry).runFrom { log }).1 = .ok build)
    (contents : ∀ m ∈ build.entry :: build.dependencies.identities,
      disk'.readBytes m = disk.readBytes m) (log' : Log) :
    ((ofEntry style disk' entry).runFrom { log := log' }).1 = .ok build := by
  obtain ⟨canonical, -, -, last, -, nothing, all⟩ := ofEntry_last built
  have canonical' : disk'.canonicalize entry = .ok build.entry := by
    rw [same.tree.canonicalize, canonical]
  have enough := length_generations_le same.tree built
  have visited := ofEntry_generations built
  rw [ofEntry_explored style canonical] at built
  rw [ofEntry_explored style canonical']
  cases run : exploreFrom (alone style disk) (disk.entries.length + 1) build.entry with
  | error e =>
    rw [run] at built
    cases built
  | ok found =>
    rw [run] at built
    have whole : gather build.entry found = build := Except.ok.inj built
    have generations : found.1.2 = build.generations := congrArg Build.generations whole
    have dependencies : found.2.dependencies = last.dependencies :=
      congrArg Build.dependencies (whole.trans all)
    have agree : ∀ m ∈ build.entry :: found.1.2.flatten, alone style disk' m = alone style disk m := by
      rw [generations, ← visited]
      exact fun m member => alone_congr same (contents m member)
    rw [exploreFrom_congr run (by rw [dependencies, nothing]) (by rw [generations]; omega) agree]
    exact built

end Build

namespace Bundle

open Reporting (Gives)

variable {style : Script.Style} {disk disk' : Disk} {entry : Path}

theorem toText_built {settings : Settings} {build : Build} {text : String}
    (edition : settings.edition = .ok style.edition) (compact : settings.minify = style.isCompact)
    (built : (Build.ofEntry style disk entry).alone = .ok build)
    (assembled : assemble settings.instantiation settings.minify build.entrySource
      build.dependencies = .ok text) : Gives (toText settings disk entry) (.ok text) := by
  have made : made settings disk entry = .ok { code := text, warnings := build.warnings } := by
    rw [Bundle.made, edition]
    change (Except.mapError _ (Build.ofEntry ⟨style.edition, settings.minify⟩ disk entry).alone >>= _) = _
    rw [compact, built]
    change (Except.mapError _ (assemble _ _ build.entrySource build.dependencies) >>= _) = _
    rw [← compact, assembled]
    rfl
  have gives := toText_gives settings disk entry
  rw [made] at gives
  exact gives

/-- A bundle depends on what it bundles. On another disk with the same directories, files and links,
where the bundled modules and all manifests read the same, the build succeeds with the same outcome:
entry, records in their order, graph and warnings; and what is assembled from it, in the style of the
build, is the same text. -/
theorem contents_determine {log : Log} {build : Build} (same : disk.SameManifests disk')
    (built : ((Build.ofEntry style disk entry).runFrom { log }).1 = .ok build)
    (contents : ∀ m ∈ build.entry :: build.dependencies.identities,
      disk'.readBytes m = disk.readBytes m) :
    (∀ log', ((Build.ofEntry style disk' entry).runFrom { log := log' }).1 = .ok build) ∧
    ∀ settings : Settings, settings.edition = .ok style.edition → settings.minify = style.isCompact →
      ∃ text, assemble settings.instantiation settings.minify build.entrySource build.dependencies =
          .ok text ∧
        Gives (toText settings disk entry) (.ok text) ∧
        Gives (toText settings disk' entry) (.ok text) := by
  have again := Build.ofEntry_congr same built contents
  refine ⟨again, fun settings edition compact => ?_⟩
  obtain ⟨assembled, -⟩ := Build.assemble_program built settings.instantiation settings.minify
  rw [Build.ofEntry_alone] at built
  exact ⟨_, assembled, toText_built edition compact built assembled,
    toText_built edition compact (again .empty) assembled⟩

/-- A disk with a package, and a file beside it that nothing refers to. -/
def shelf : Disk where
  entries := [(["m.ts"], .file "import 'lib';\nrequire();".toUTF8),
    (["node_modules"], .directory),
    (["node_modules", "lib"], .directory),
    (["node_modules", "lib", "package.json"], .file "\x7b\"main\": \"l\"\x7d".toUTF8),
    (["node_modules", "lib", "l.js"], .file "require();".toUTF8),
    (["notes.md"], .file "one".toUTF8)]
  workingDirectory := []

theorem shelf_sameManifests (content : ByteArray) :
    shelf.SameManifests (shelf.put ["notes.md"] (.file content)) := by
  refine Resolution.sameManifests_of_noLinks (.put rfl content) ?_ fun place named => ?_
  · intro place target here
    unfold Disk.entry? at here
    split_ifs at here
    · cases here
    · obtain ⟨before, after, entries, -⟩ := List.lookup_eq_some_iff.mp here
      have member : (place, Entry.link target) ∈ shelf.entries := by simp [entries]
      simp [shelf] at member
  · refine Disk.entry?_put_ne ?_ _
    rintro rfl
    exact absurd named (by decide)

/-- The file beside the package may hold anything. -/
theorem contents_determine_shelf : ∃ build text,
    ((Build.ofEntry ⟨.es2020, false⟩ shelf ⟨"m.ts"⟩).runFrom {}).1 = .ok build ∧
    build.dependencies.identities = [⟨"/node_modules/lib/l.js"⟩] ∧
    shelf.readText ⟨"notes.md"⟩ = .ok "one" ∧
    Gives (toText {} shelf ⟨"m.ts"⟩) (.ok text) ∧
    ∀ content, ((Build.ofEntry ⟨.es2020, false⟩ (shelf.put ["notes.md"] (.file content)) ⟨"m.ts"⟩).runFrom
        {}).1 = .ok build ∧
      Gives (toText {} (shelf.put ["notes.md"] (.file content)) ⟨"m.ts"⟩) (.ok text) := by
  have run : ((Build.ofEntry ⟨.es2020, false⟩ shelf ⟨"m.ts"⟩).runFrom {}).1.map (fun build =>
      (build.entry, build.dependencies.identities)) =
        .ok (⟨"/m.ts"⟩, [⟨"/node_modules/lib/l.js"⟩]) := by decide +kernel
  cases built : ((Build.ofEntry ⟨.es2020, false⟩ shelf ⟨"m.ts"⟩).runFrom {}).1 with
  | error e =>
    rw [built] at run
    cases run
  | ok build =>
    rw [built] at run
    obtain ⟨entry, identities⟩ := Prod.mk.inj (Except.ok.inj run)
    have whole (content : ByteArray) := by
      refine contents_determine (shelf_sameManifests content) built ?_
      rw [entry, identities]
      simp only [List.forall_mem_cons, List.not_mem_nil]
      exact ⟨rfl, rfl, by simp⟩
    have edition : ({} : Settings).edition = .ok .es2020 := by decide +kernel
    obtain ⟨text, -, printed, -⟩ := (whole .empty).2 {} edition rfl
    refine ⟨build, text, rfl, identities, by decide +kernel, printed, fun content => ?_⟩
    obtain ⟨again, texts⟩ := whole content
    obtain ⟨text', -, printed', others⟩ := texts {} edition rfl
    obtain rfl : text = text' := Except.ok.inj ((printed .empty).symm.trans (printed' .empty))
    exact ⟨again .empty, others⟩

end Bundle

end ScriptBundle
