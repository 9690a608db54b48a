import ScriptBundle.Proofs.Assembly
import ScriptBundle.Proofs.Build.Reachable
import ScriptBundle.Proofs.Literal.Keys

/-! Which modules a bundle has the texts of, and how often. The records of a build come first, in the
order of their discovery, and the entry comes last; an entry that is a record as well comes twice. -/
namespace ScriptBundle.Build

variable {style : Script.Style} {disk : Disk}

/-- The pieces of the program that a build is assembled to. -/
def program (build : Build) (instantiation : Instantiation) : List Assembly.Piece :=
  Assembly.program instantiation build.entrySource (Assembly.sourced build.dependencies.records)

/-- The modules whose texts the program of a build has, as often as it has them. -/
def embedded (build : Build) : List Record :=
  build.dependencies.records ++ [⟨build.entry, some build.entrySource⟩]

theorem count_embedded {build : Build} (unique : build.dependencies.identities.Nodup) (m : Identity) :
    (build.embedded.map (·.identity)).count m =
      (if m ∈ build.dependencies.identities then 1 else 0) + if m = build.entry then 1 else 0 := by
  have records : build.embedded.map (·.identity) = build.dependencies.identities ++ [build.entry] := by
    simp [embedded, Dependencies.identities]
  rw [records, List.count_append, unique.count, List.count_singleton]
  simp only [beq_iff_eq, eq_comm (a := m)]

example : (embedded { (default : Build) with
    entry := ⟨"/m"⟩, dependencies := ⟨[⟨⟨"/a"⟩, some "a()"⟩, ⟨⟨"/m"⟩, some "m()"⟩]⟩ }).map (·.identity) =
      [⟨"/a"⟩, ⟨"/m"⟩, ⟨"/m"⟩] := by decide +kernel

section Built

variable {entry : Path} {log : Log} {build : Build}

/-- What a build records is what its modules refer to, each once. -/
theorem ofEntry_records (built : ((ofEntry style disk entry).runFrom { log }).1 = .ok build) :
    build.dependencies.identities.Nodup ∧ ∀ m, m ∈ build.dependencies.identities ↔
      ∃ source ∈ build.entry :: build.dependencies.identities, Refers style disk source m := by
  obtain ⟨last, -, surveyed, -⟩ := ofEntry_surveyed built
  have unique := surveyed.nodup
  rw [List.append_nil] at unique
  refine ⟨unique, fun m => ?_⟩
  rw [← List.append_nil build.dependencies.identities, surveyed.mem_iff, List.append_nil]
  rfl

/-- The texts of a build are those of its modules. -/
theorem ofEntry_linked (built : ((ofEntry style disk entry).runFrom { log }).1 = .ok build) :
    ∀ record ∈ build.embedded, ∃ text outcome,
      (link style disk record.identity).alone = .ok (text, outcome) ∧ record.source = some text := by
  obtain ⟨-, ⟨outcome, entryLinked⟩, -⟩ := ofEntry_built built
  obtain ⟨last, -, surveyed, dependencies, -⟩ := ofEntry_surveyed built
  refine List.forall_mem_append.mpr ⟨fun record member => ?_, ?_⟩
  · rw [dependencies] at member
    exact (surveyed.source_eq member).2
  · simpa using ⟨outcome, entryLinked⟩

theorem assemble_program (built : ((ofEntry style disk entry).runFrom { log }).1 = .ok build)
    (instantiation : Instantiation) (isCompact : Bool) :
    assemble instantiation isCompact build.entrySource build.dependencies =
        .ok (Assembly.render isCompact (build.program instantiation)) ∧
      (Assembly.embedded (build.program instantiation)).map some = build.embedded.map (·.source) := by
  have visited : ∀ record ∈ build.dependencies.records, record.isVisited = true := by
    intro record member
    obtain ⟨text, -, -, source⟩ := ofEntry_linked built record (List.mem_append_left _ member)
    simp [Record.isVisited, source]
  obtain ⟨finished, sources⟩ := Assembly.finished_sourced visited
  constructor
  · rw [assemble, finished]
    rfl
  · rw [program, Assembly.embedded_program, embedded, List.map_append, List.map_append, List.map_map,
      ← sources]
    rfl

/-- The text of an entry that is a record as well is in the registry and at the end. -/
theorem two_le_count_entrySource
    (built : ((ofEntry style disk entry).runFrom { log }).1 = .ok build)
    (recorded : build.entry ∈ build.dependencies.identities) (instantiation : Instantiation) :
    2 ≤ (Assembly.embedded (build.program instantiation)).count build.entrySource := by
  obtain ⟨record, member, same⟩ := List.mem_map.mp recorded
  obtain ⟨text, outcome, linked, source⟩ := ofEntry_linked built record (List.mem_append_left _ member)
  obtain ⟨-, ⟨outcome', entryLinked⟩, -⟩ := ofEntry_built built
  rw [same, entryLinked] at linked
  obtain ⟨rfl, -⟩ := Prod.mk.inj (Except.ok.inj linked)
  have registered : build.entrySource ∈ (Assembly.sourced build.dependencies.records).map (·.2) := by
    refine List.mem_map.mpr ⟨(record.identity, build.entrySource), ?_, rfl⟩
    exact List.mem_filterMap.mpr ⟨record, member, by rw [source]; rfl⟩
  have once := List.count_pos_iff.mpr registered
  rw [program, Assembly.embedded_program, List.count_append, List.count_singleton_self]
  omega

/-- The program of a build has the text of every record in the registry, under a key of its own, and
the text of the entry at its end. So it has every module once, except for an entry that another module
refers to: it is a record like any other, and the program has it twice. -/
theorem ofEntry_embeds (built : ((ofEntry style disk entry).runFrom { log }).1 = .ok build) :
    (∀ instantiation isCompact,
      assemble instantiation isCompact build.entrySource build.dependencies =
        .ok (Assembly.render isCompact (build.program instantiation)) ∧
      (Assembly.embedded (build.program instantiation)).map some = build.embedded.map (·.source)) ∧
    (∀ record ∈ build.embedded, ∃ text outcome,
      (link style disk record.identity).alone = .ok (text, outcome) ∧ record.source = some text) ∧
    (build.dependencies.identities.map fun m =>
      Script.Literal.value? (Assembly.key m)).Nodup ∧
    (∀ m ∈ build.dependencies.identities, m ≠ build.entry →
      (build.embedded.map (·.identity)).count m = 1) ∧
    ((∀ m ∈ build.entry :: build.dependencies.identities, ¬Refers style disk m build.entry) →
      (build.embedded.map (·.identity)).count build.entry = 1) ∧
    ((∃ m ∈ build.dependencies.identities, m ≠ build.entry ∧ Refers style disk m build.entry) →
      (build.embedded.map (·.identity)).count build.entry = 2) := by
  obtain ⟨unique, recorded⟩ := ofEntry_records built
  refine ⟨assemble_program built, ofEntry_linked built, ?_, fun m member other => ?_,
    fun alone => ?_, ?_⟩
  · exact unique.map fun _ _ => Script.Literal.value?_key_inj.mp
  · rw [count_embedded unique, if_pos member, if_neg other]
  · have new : build.entry ∉ build.dependencies.identities := by
      rw [recorded]
      rintro ⟨source, known, refers⟩
      exact alone source known refers
    rw [count_embedded unique, if_neg new, if_pos rfl]
  · rintro ⟨m, member, -, refers⟩
    have known := (recorded build.entry).mpr ⟨m, .tail _ member, refers⟩
    rw [count_embedded unique, if_pos known, if_pos rfl]

end Built

/-- A disk with two modules that import each other. -/
def ring : Disk where
  entries := [(["m.ts"], .file "import './a';".toUTF8), (["a.ts"], .file "import './m';".toUTF8)]
  workingDirectory := []

theorem ring_built : ∃ build,
    ((ofEntry ⟨.es2020, true⟩ ring ⟨"m.ts"⟩).runFrom {}).1 = .ok build ∧
    build.entry = ⟨"/m.ts"⟩ ∧ ⟨"/a.ts"⟩ ∈ build.dependencies.identities ∧
    Refers ⟨.es2020, true⟩ ring ⟨"/a.ts"⟩ ⟨"/m.ts"⟩ := by
  have here : ring.canonicalize ⟨"m.ts"⟩ = .ok ⟨"/m.ts"⟩ := by decide
  have files : ∀ place ∈ ring.files,
      (link ⟨.es2020, true⟩ ring (Disk.canonical place)).alone.isOk = true := by decide +kernel
  obtain ⟨build, built⟩ := ofEntry_succeeds here (by decide +kernel) files .empty
  obtain ⟨canonical, -⟩ := ofEntry_built built
  have entry := Except.ok.inj (canonical.symm.trans here)
  have refers : ⟨"/a.ts"⟩ ∈ references ⟨.es2020, true⟩ ring ⟨"/m.ts"⟩ := by decide +kernel
  have back : ⟨"/m.ts"⟩ ∈ references ⟨.es2020, true⟩ ring ⟨"/a.ts"⟩ := by decide +kernel
  rw [← entry] at refers
  exact ⟨build, built, entry, ((ofEntry_records built).2 _).mpr ⟨_, .head _, refers⟩, back⟩

theorem ofEntry_embeds_ring : ∃ build,
    ((ofEntry ⟨.es2020, true⟩ ring ⟨"m.ts"⟩).runFrom {}).1 = .ok build ∧
    (build.embedded.map (·.identity)).count ⟨"/a.ts"⟩ = 1 ∧
    (build.embedded.map (·.identity)).count ⟨"/m.ts"⟩ = 2 := by
  obtain ⟨build, built, entry, recorded, refers⟩ := ring_built
  obtain ⟨-, -, -, once, -, twice⟩ := ofEntry_embeds built
  rw [entry] at once twice
  exact ⟨build, built, once _ recorded (by decide), twice ⟨_, recorded, by decide, refers⟩⟩

/-- The entry is imported back, so its text is in the registry as well. -/
theorem ofEntry_embeds_twice : ∃ build,
    ((ofEntry ⟨.es2020, true⟩ ring ⟨"m.ts"⟩).runFrom {}).1 = .ok build ∧
    build.entry ∈ build.dependencies.identities ∧
    ∀ instantiation isCompact,
      assemble instantiation isCompact build.entrySource build.dependencies =
        .ok (Assembly.render isCompact (build.program instantiation)) ∧
      2 ≤ (Assembly.embedded (build.program instantiation)).count build.entrySource := by
  obtain ⟨build, built, entry, recorded, refers⟩ := ring_built
  rw [← entry] at refers
  have again := ((ofEntry_records built).2 _).mpr ⟨_, .tail _ recorded, refers⟩
  exact ⟨build, built, again, fun instantiation isCompact =>
    ⟨(assemble_program built instantiation isCompact).1,
      two_le_count_entrySource built again instantiation⟩⟩

end ScriptBundle.Build
