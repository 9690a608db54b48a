import ScriptBundle.Proofs.Build.Embedded
import ScriptBundle.Proofs.Build.Graphs
import ScriptBundle.Proofs.Literal.Keys
import ScriptBundle.Proofs.Resolution.Canonical
import ScriptBundle.Proofs.Resolution.Order

/-! One file, one module. However a file is written and whatever links lead to it, it has one identity,
so no two records of a build hold the same file, and no two have the same key. -/
namespace ScriptBundle

namespace Resolution

variable {disk : Disk}

/-- A truthful memo makes no difference to the answer. -/
theorem resolve_truthful {s : Session} (truthful : s.memo.Truthful disk) (specifier : String)
    (importer : Path) :
    ((resolve disk specifier importer).runFrom s).1 = answer disk specifier importer := by
  rw [(Steady.resolve disk specifier importer).result s truthful, resolve_alone]

/-- The files that decide two searches are the same just if the answers are. -/
theorem answer_eq_iff (sound : disk.IsSound) {specifier specifier' : String} {importer importer' file
    file' : Path}
    (first : (searchList disk (directoryOf importer) specifier).find? disk.isFile = some file)
    (first' : (searchList disk (directoryOf importer') specifier').find? disk.isFile = some file') :
    disk.locate file = disk.locate file' ↔
      answer disk specifier importer = answer disk specifier' importer' := by
  have decided {specifier : String} {importer file : Path}
      (first : (searchList disk (directoryOf importer) specifier).find? disk.isFile = some file) :
      ∃ place identity, disk.locate file = .ok place ∧ disk.Denotes identity place ∧
        answer disk specifier importer = .ok identity := by
    obtain ⟨identity, found⟩ := Option.isSome_iff_exists.mp
      ((disk.isSome_fileAt file).trans (List.find?_some first))
    obtain ⟨place, located, denotes⟩ := sound.denotes found
    refine ⟨place, identity, located, denotes, answer_eq_ok_iff.mpr ⟨file, first, ?_⟩⟩
    exact ((disk.fileAt_eq_some_iff file identity).mp found).2
  obtain ⟨place, identity, located, denotes, answered⟩ := decided first
  obtain ⟨place', identity', located', denotes', answered'⟩ := decided first'
  rw [located, located', answered, answered', Except.ok.injEq, Except.ok.injEq]
  exact denotes.eq_iff sound denotes'

end Resolution

namespace Build

open Resolution (resolve directoryOf searchList)

variable {style : Script.Style} {disk : Disk}

/-- Every record of a build is that of a file, and no two records have one identity. -/
theorem records_denote (sound : disk.IsSound) {entry : Path} {log : Log} {build : Build}
    (built : ((ofEntry style disk entry).runFrom { log }).1 = .ok build) :
    (build.dependencies.records.map Record.identity).Nodup ∧
      ∀ record ∈ build.dependencies.records, ∃ place, disk.Denotes record.identity place := by
  obtain ⟨unique, listed⟩ := ofEntry_records built
  refine ⟨unique, fun record member => ?_⟩
  obtain ⟨source, -, refers⟩ := (listed record.identity).mp (List.mem_map_of_mem member)
  obtain ⟨specifier, answered⟩ := (references_recorded style disk source).2 _ refers
  exact Resolution.denotes_of_answer sound answered

/-- On a disk that does not change, what a specifier refers to is the canonical path of a regular file,
without a link on the way. That path is its own answer for every importing module, and two answers are
the same just if the files that decide are. So the records of a build are those of different files, with
different keys, and a record that is the file of the entry has the identity of the entry. -/
theorem identities_canonical {disk : Disk} (sound : disk.IsSound) (style : Script.Style) :
    (∀ s : Session, s.memo.Truthful disk → ∀ specifier importer identity,
      ((resolve disk specifier importer).runFrom s).1 = .ok identity →
      identity.isAbsolute = true ∧ disk.isFile identity = true ∧
      (∃ place, disk.locate identity = .ok place ∧ identity = Disk.canonical place ∧
        identity.components = .root :: place.map .name ∧
        ∀ above, above <+: place → ∀ target, disk.entry? above ≠ some (.link target)) ∧
      ∀ s' : Session, s'.memo.Truthful disk → ∀ importer',
        ((resolve disk identity.text importer').runFrom s').1 = .ok identity) ∧
    (∀ s s' : Session, s.memo.Truthful disk → s'.memo.Truthful disk →
      ∀ specifier specifier' importer importer' file file',
      (searchList disk (directoryOf importer) specifier).find? disk.isFile = some file →
      (searchList disk (directoryOf importer') specifier').find? disk.isFile = some file' →
      (disk.locate file = disk.locate file' ↔
        ((resolve disk specifier importer).runFrom s).1 =
          ((resolve disk specifier' importer').runFrom s').1)) ∧
    ∀ entry log build, ((ofEntry style disk entry).runFrom { log }).1 = .ok build →
      build.dependencies.records.Pairwise (fun r r' =>
        disk.locate r.identity ≠ disk.locate r'.identity ∧
        Assembly.key r.identity ≠ Assembly.key r'.identity ∧
        Script.Literal.value? (Assembly.key r.identity) ≠
          Script.Literal.value? (Assembly.key r'.identity)) ∧
      ∀ r ∈ build.dependencies.records, disk.locate r.identity = disk.locate entry →
        r.identity = build.entry := by
  refine ⟨fun s truthful specifier importer identity found => ?_,
    fun s s' truthful truthful' specifier specifier' importer importer' file file' first first' => ?_,
    fun entry log build built => ⟨?_, fun r member same => ?_⟩⟩
  · rw [Resolution.resolve_truthful truthful] at found
    obtain ⟨place, denotes⟩ := Resolution.denotes_of_answer sound found
    have file := (disk.fileAt_eq_some_iff identity identity).mp (denotes.fileAt sound)
    refine ⟨denotes.isAbsolute, file.1, ⟨place, denotes.locate sound, denotes.path,
      denotes.components, fun above front => denotes.entry?_ne_link front⟩, ?_⟩
    intro s' truthful' importer'
    rw [Resolution.resolve_truthful truthful']
    exact Resolution.answer_identity sound denotes importer'
  · rw [Resolution.resolve_truthful truthful, Resolution.resolve_truthful truthful']
    exact Resolution.answer_eq_iff sound first first'
  · obtain ⟨unique, files⟩ := records_denote sound built
    refine (List.pairwise_map.mp unique).imp_of_mem fun member member' apart => ?_
    obtain ⟨place, denotes⟩ := files _ member
    obtain ⟨place', denotes'⟩ := files _ member'
    have values := mt Script.Literal.value?_key_inj.mp apart
    refine ⟨?_, fun same => values (congrArg _ same), values⟩
    rw [denotes.locate sound, denotes'.locate sound, ne_eq, Except.ok.injEq]
    exact mt (denotes.eq_iff sound denotes').mp apart
  · obtain ⟨-, files⟩ := records_denote sound built
    obtain ⟨canonical, -⟩ := ofEntry_reachable built
    obtain ⟨place, denotes⟩ := files r member
    rw [denotes.locate sound] at same
    rw [Disk.canonicalize, ← same] at canonical
    exact denotes.path.trans (Except.ok.inj canonical)

/-- A disk with a module that imports a file twice, once through a link, and another one. -/
def aliased : Disk where
  entries := [(["m.ts"], .file "import './n';\nimport './lib/alias';\nimport './o';".toUTF8),
    (["n.ts"], .file "".toUTF8), (["o.ts"], .file "".toUTF8), (["lib"], .directory),
    (["lib", "alias.ts"], .link "../n.ts")]
  workingDirectory := []

theorem isSound_aliased : aliased.IsSound := .ofEntries (by decide +kernel) rfl

/-- The link and the file have one identity, so a build has the file once. -/
theorem identities_canonical_aliased :
    ((resolve aliased "/n.ts" ⟨"far/away.ts"⟩).runFrom {}).1 = .ok ⟨"/n.ts"⟩ ∧
    ((resolve aliased "./n" ⟨"/m.ts"⟩).runFrom {}).1 =
      ((resolve aliased "./lib/alias" ⟨"/m.ts"⟩).runFrom {}).1 ∧
    ∃ build, ((ofEntry ⟨.es2020, true⟩ aliased ⟨"m.ts"⟩).runFrom { log := .empty }).1 = .ok build ∧
      build.dependencies.identities = [⟨"/n.ts"⟩, ⟨"/o.ts"⟩] ∧
      build.dependencies.records.Pairwise fun r r' =>
        Assembly.key r.identity ≠ Assembly.key r'.identity := by
  obtain ⟨answers, same, builds⟩ := identities_canonical isSound_aliased ⟨.es2020, true⟩
  have truthful := Memo.truthful_empty aliased
  refine ⟨?_, ?_, ?_⟩
  · obtain ⟨-, -, -, again⟩ := answers {} truthful "./lib/alias" ⟨"/m.ts"⟩ ⟨"/n.ts"⟩ (by decide +kernel)
    exact again {} truthful ⟨"far/away.ts"⟩
  · exact (same {} {} truthful truthful "./n" "./lib/alias" ⟨"/m.ts"⟩ ⟨"/m.ts"⟩ ⟨"/./n.ts"⟩
      ⟨"/./lib/alias.ts"⟩ (by decide +kernel) (by decide +kernel)).mp (by decide +kernel)
  · have run : (((ofEntry ⟨.es2020, true⟩ aliased ⟨"m.ts"⟩).runFrom { log := .empty }).1.map
        fun build => build.dependencies.identities) = .ok [⟨"/n.ts"⟩, ⟨"/o.ts"⟩] := by decide +kernel
    cases built : ((ofEntry ⟨.es2020, true⟩ aliased ⟨"m.ts"⟩).runFrom { log := .empty }).1 with
    | error e =>
      rw [built] at run
      cases run
    | ok build =>
      rw [built] at run
      exact ⟨build, rfl, Except.ok.inj run, (builds _ _ build built).1.imp fun apart => apart.2.1⟩

end Build

end ScriptBundle
