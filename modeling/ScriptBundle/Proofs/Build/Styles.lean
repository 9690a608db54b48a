import ScriptBundle.Proofs.Build.Embedded
import ScriptBundle.Proofs.Build.Failing

/-! Styles of printing. A run looks at whether a module has a text and never at the text, so runs that
print in different styles visit the same modules, find the same and fail alike. -/
namespace ScriptBundle

/-- The records with all texts blank. -/
def Dependencies.bare (d : Dependencies) : Dependencies :=
  ⟨d.records.map fun r => { r with source := r.source.map fun _ => "" }⟩

namespace Dependencies

variable (d : Dependencies) (m : Identity) (text : String)

@[simp] theorem identities_bare : d.bare.identities = d.identities := by
  simp [bare, identities, Function.comp_def]

@[simp] theorem pending_bare : d.bare.pending = d.pending := by
  simp [bare, pending, List.filter_map, Function.comp_def, Record.isVisited]

theorem bare_discover : (d.discover m).bare = d.bare.discover m := by
  unfold discover
  rw [identities_bare]
  split_ifs
  · rfl
  · simp [bare]

theorem bare_discoverAll (found : List Identity) :
    (found.foldl discover d).bare = found.foldl discover d.bare := by
  induction found generalizing d with
  | nil => rfl
  | cons m rest ih => rw [List.foldl_cons, List.foldl_cons, ih, bare_discover]

theorem bare_complete : (d.complete m text).bare = d.bare.complete m "" := by
  simp only [complete, bare, List.map_map, mk.injEq]
  apply List.map_congr_left
  intro r member
  by_cases here : r.identity = m <;> simp [here]

example : (bare ⟨[⟨⟨"/a"⟩, some "a()"⟩, ⟨⟨"/b"⟩, none⟩]⟩).complete ⟨"/b"⟩ "" =
    bare ⟨[⟨⟨"/a"⟩, some "a();"⟩, ⟨⟨"/b"⟩, some "b()"⟩]⟩ := by decide +kernel

end Dependencies

def Survey.bare (survey : Survey) : Survey := { survey with dependencies := survey.dependencies.bare }

namespace Build

open Rewriting (Outcome)

/-- A build with all texts blank. -/
def bare (build : Build) : Build :=
  { build with entrySource := "", dependencies := build.dependencies.bare }

/-- Linking that gives blank texts. -/
def blank (linking : Linking) : Linking := fun m => (linking m).map fun found => ("", found.2)

section Blank

variable {linking : Linking}

theorem bare_absorb (survey : Survey) (m : Identity) (outcome : Outcome) :
    (absorb survey m outcome).bare = absorb survey.bare m outcome := by
  simp [absorb, Survey.bare, Dependencies.bare_discoverAll]

theorem bare_settle (survey : Survey) (m : Identity) (text : String) (outcome : Outcome) :
    (settle survey m text outcome).bare = settle survey.bare m "" outcome := by
  have absorbed := bare_absorb survey m outcome
  simp only [Survey.bare] at absorbed
  simp only [settle, Survey.bare, Dependencies.bare_complete, ← absorbed]

theorem exploreAll_blank (ms : List Identity) (survey : Survey) :
    exploreAll (blank linking) ms survey.bare = (exploreAll linking ms survey).map Survey.bare := by
  induction ms generalizing survey with
  | nil => rfl
  | cons m rest ih =>
    rw [exploreAll, exploreAll, blank]
    cases linking m with
    | error e => rfl
    | ok found =>
      have settled := bare_settle survey m found.1 found.2
      change exploreAll (blank linking) rest (settle survey.bare m "" found.2) = _
      rw [← settled, ih]
      rfl

/-- Exploring keeps to its way when texts are blanked: the generations are the same, and so is all that
is found besides the texts. -/
theorem explore_blank (fuel : Nat) (survey : Survey) :
    explore (blank linking) fuel survey.bare =
      (explore linking fuel survey).map fun found => (found.1, found.2.bare) := by
  induction fuel generalizing survey with
  | zero => rfl
  | succ fuel ih =>
    have pending : survey.bare.dependencies.pending = survey.dependencies.pending :=
      survey.dependencies.pending_bare
    rw [explore, explore, pending]
    split_ifs with done
    · rfl
    · rw [exploreAll_blank]
      cases exploreAll linking survey.dependencies.pending survey with
      | error e => rfl
      | ok middle =>
        change (explore (blank linking) fuel middle.bare).map _ =
          ((explore linking fuel middle).map _).map _
        rw [ih]
        cases explore linking fuel middle <;> rfl

theorem exploreFrom_blank (fuel : Nat) (entry : Identity) :
    (exploreFrom (blank linking) fuel entry).map (gather entry) =
      ((exploreFrom linking fuel entry).map (gather entry)).map bare := by
  rw [exploreFrom, exploreFrom, blank]
  cases linking entry with
  | error e => rfl
  | ok found =>
    have absorbed : (absorb {} entry found.2).bare = absorb {} entry found.2 :=
      bare_absorb {} entry found.2
    have explored := @explore_blank linking fuel (absorb {} entry found.2)
    rw [absorbed] at explored
    change Except.map _ (Except.map _ (explore (blank linking) fuel _)) =
      Except.map _ (Except.map _ (Except.map _ (explore linking fuel _)))
    rw [explored]
    cases explore linking fuel (absorb {} entry found.2) <;> rfl

end Blank

variable {disk : Disk}

/-- The style decides the text of a module only. -/
theorem blank_alone (style style' : Script.Style) (disk : Disk) :
    blank (alone style disk) = blank (alone style' disk) := by
  funext m
  unfold blank alone
  rw [link_alone, link_alone]
  cases linkedModule disk m <;> simp only [Except.map]

theorem ofEntry_bare (style style' : Script.Style) (disk : Disk) (entry : Path) (log log' : Log) :
    ((ofEntry style disk entry).runFrom { log }).1.map bare =
      ((ofEntry style' disk entry).runFrom { log := log' }).1.map bare := by
  cases canonical : disk.canonicalize entry with
  | error cause => rw [ofEntry_missing canonical, ofEntry_missing canonical]
  | ok start =>
    rw [ofEntry_explored style canonical, ofEntry_explored style' canonical, ← exploreFrom_blank,
      ← exploreFrom_blank, blank_alone style style']

theorem error_iff_of_map_eq {ε α β : Type} {x y : Except ε α} {f : α → β} (same : x.map f = y.map f)
    (e : ε) : x = .error e ↔ y = .error e := by
  cases x <;> cases y <;> simp_all [Except.map]

/-- The same modules printed in two styles. -/
def Restyled (style style' : Script.Style) : Record → Record → Prop := fun r r' =>
  r'.identity = r.identity ∧ ∃ m : Script.Module,
    r.source = some (m.plain.print style) ∧ r'.source = some (m.plain.print style')

theorem restyled_embedded {style style' : Script.Style} {entry : Path} {log log' : Log}
    {build build' : Build}
    (built : ((ofEntry style disk entry).runFrom { log }).1 = .ok build)
    (built' : ((ofEntry style' disk entry).runFrom { log := log' }).1 = .ok build')
    (same : build'.embedded.map (·.identity) = build.embedded.map (·.identity)) :
    List.Forall₂ (Restyled style style') build.embedded build'.embedded := by
  have paired : List.Forall₂ (fun r r' : Record => r'.identity = r.identity)
      build.embedded build'.embedded := by
    have equal : List.Forall₂ (fun m m' : Identity => m' = m) (build.embedded.map (·.identity))
        (build'.embedded.map (·.identity)) := by
      rw [same]
      exact List.forall₂_same.mpr fun _ _ => rfl
    simpa using equal
  obtain ⟨length, pairs⟩ := List.forall₂_iff_zip.mp paired
  refine List.forall₂_iff_zip.mpr ⟨length, fun {r r'} member => ⟨pairs member, ?_⟩⟩
  obtain ⟨inside, inside'⟩ := List.of_mem_zip member
  obtain ⟨text, outcome, linked, source⟩ := ofEntry_linked built r inside
  obtain ⟨text', outcome', linked', source'⟩ := ofEntry_linked built' r' inside'
  obtain ⟨m, tree, rfl⟩ := exists_linkedModule linked
  obtain ⟨m', tree', rfl⟩ := exists_linkedModule linked'
  rw [pairs member, tree] at tree'
  obtain ⟨rfl, -⟩ := Prod.mk.inj (Except.ok.inj tree')
  exact ⟨m, source, source'⟩

/-- The style of a build decides nothing but its texts: in every style it fails with the same error or
finds the same modules in the same order, the same graph with its cycles and the same warnings, and the
texts are those of the same trees. -/
theorem ofEntry_restyled (style style' : Script.Style) (disk : Disk) (entry : Path) (log log' : Log) :
    (∀ e, ((ofEntry style disk entry).runFrom { log }).1 = .error e ↔
      ((ofEntry style' disk entry).runFrom { log := log' }).1 = .error e) ∧
    ∀ build, ((ofEntry style disk entry).runFrom { log }).1 = .ok build →
      ∃ build', ((ofEntry style' disk entry).runFrom { log := log' }).1 = .ok build' ∧
        build'.entry = build.entry ∧
        build'.dependencies.identities = build.dependencies.identities ∧
        build'.graph = build.graph ∧
        build'.graph.findCycles = build.graph.findCycles ∧
        build'.warnings = build.warnings ∧
        build'.generations = build.generations ∧
        List.Forall₂ (Restyled style style') build.embedded build'.embedded := by
  have same := ofEntry_bare style style' disk entry log log'
  refine ⟨error_iff_of_map_eq same, ?_⟩
  intro build built
  rw [built] at same
  cases run : ((ofEntry style' disk entry).runFrom { log := log' }).1 with
  | error e' =>
    rw [run] at same
    cases same
  | ok build' =>
    rw [run] at same
    have bares : build.bare = build'.bare := Except.ok.inj same
    have graph : build'.graph = build.graph := (congrArg Build.graph bares).symm
    have entries : build'.entry = build.entry := (congrArg Build.entry bares).symm
    have identities : build'.dependencies.identities = build.dependencies.identities := by
      have recorded := congrArg (fun b : Build => b.dependencies.identities) bares
      simpa [bare] using recorded.symm
    have embedded : build'.embedded.map (·.identity) = build.embedded.map (·.identity) := by
      unfold Dependencies.identities at identities
      simp [Build.embedded, identities, entries]
    exact ⟨build', rfl, entries, identities, graph, by rw [graph],
      (congrArg Build.warnings bares).symm, (congrArg Build.generations bares).symm,
      restyled_embedded built run embedded⟩

/-- The texts differ, and nothing else does; a module that is missing in one style is in the other. -/
theorem ofEntry_restyled_mirror : (∃ build build',
    ((ofEntry ⟨.es2020, true⟩ mirror ⟨"m.ts"⟩).runFrom {}).1 = .ok build ∧
    ((ofEntry ⟨.es5, false⟩ mirror ⟨"m.ts"⟩).runFrom {}).1 = .ok build' ∧
    build'.dependencies.identities = [⟨"/m.ts"⟩, ⟨"/a.ts"⟩] ∧
    build'.graph = build.graph ∧
    build'.entrySource ≠ build.entrySource) ∧
    ((ofEntry ⟨.es5, false⟩ broken ⟨"m.ts"⟩).runFrom {}).1 =
      .error (.resolution "./lost" ⟨"/b.ts"⟩) := by
  constructor
  · obtain ⟨build, built, -, identities, -⟩ := mirror_built
    obtain ⟨-, styles⟩ := ofEntry_restyled ⟨.es2020, true⟩ ⟨.es5, false⟩ mirror ⟨"m.ts"⟩ .empty .empty
    obtain ⟨build', built', -, identities', graph, -⟩ := styles build built
    have texts : ((ofEntry ⟨.es2020, true⟩ mirror ⟨"m.ts"⟩).runFrom {}).1.map (·.entrySource) ≠
        ((ofEntry ⟨.es5, false⟩ mirror ⟨"m.ts"⟩).runFrom {}).1.map (·.entrySource) := by
      decide +kernel
    refine ⟨build, build', built, built', identities'.trans identities, graph, fun same => texts ?_⟩
    rw [built, built', Except.map, Except.map, same]
  · have failed : ((ofEntry ⟨.es2020, true⟩ broken ⟨"m.ts"⟩).runFrom {}).1.map (·.entry) =
        .error (.resolution "./lost" ⟨"/b.ts"⟩) := by decide +kernel
    refine (ofEntry_restyled ⟨.es2020, true⟩ ⟨.es5, false⟩ broken ⟨"m.ts"⟩ .empty .empty).1 _ |>.mp ?_
    cases run : ((ofEntry ⟨.es2020, true⟩ broken ⟨"m.ts"⟩).runFrom {}).1 with
    | error e =>
      rw [run] at failed
      exact congrArg _ (Except.error.inj failed)
    | ok build =>
      rw [run] at failed
      cases failed

end Build

end ScriptBundle
