import Mathlib.Logic.Relation
import ScriptBundle.Proofs.Build.Discovery
import ScriptBundle.Proofs.Build.Linked

/-! The surveys on the way from an entry to all modules that it needs. The first module that is known
and was not visited is always visited next, so the modules that were visited and those that wait are
the references so far, in the order of discovery. -/
namespace ScriptBundle.Build

open Rewriting (Outcome)

variable {style : Script.Style} {disk : Disk} {entry : Identity}

/-- The surveys behind a visit to the entry and visits to waiting modules, first come first served. -/
inductive Reached (style : Script.Style) (disk : Disk) (entry : Identity) :
    List Identity → Survey → Prop where
  | entry {text : String} {outcome : Outcome} :
      (link style disk entry).alone = .ok (text, outcome) →
      Reached style disk entry [] (absorb {} entry outcome)
  | visit {visited : List Identity} {survey : Survey} {identity : Identity}
      {waiting : List Identity} {text : String} {outcome : Outcome} :
      Reached style disk entry visited survey →
      survey.dependencies.pending = identity :: waiting →
      (link style disk identity).alone = .ok (text, outcome) →
      Reached style disk entry (visited ++ [identity]) (settle survey identity text outcome)

/-- The record of a module that was visited. -/
def recordOf (style : Script.Style) (disk : Disk) (identity : Identity) : Record :=
  ⟨identity, (link style disk identity).alone.toOption.map (·.1)⟩

theorem recordOf_eq {identity : Identity} {text : String} {outcome : Outcome}
    (linked : (link style disk identity).alone = .ok (text, outcome)) :
    recordOf style disk identity = ⟨identity, some text⟩ := by
  rw [recordOf, linked]
  rfl

/-- A survey of modules of which some were visited, and the others wait. -/
structure Surveyed (style : Script.Style) (disk : Disk) (entry : Identity)
    (visited waiting : List Identity) (survey : Survey) : Prop where
  linked : ∀ m ∈ entry :: visited, ∃ text outcome, (link style disk m).alone = .ok (text, outcome)
  records : survey.dependencies.records =
    visited.map (recordOf style disk) ++ waiting.map (⟨·, none⟩)
  found : visited ++ waiting = ((entry :: visited).flatMap (references style disk)).eraseDups
  warnings : survey.warnings = (entry :: visited).flatMap (warningsOf style disk)

namespace Surveyed

variable {visited waiting : List Identity} {survey : Survey}

theorem identities (surveyed : Surveyed style disk entry visited waiting survey) :
    survey.dependencies.identities = visited ++ waiting := by
  simp [Dependencies.identities, surveyed.records, Function.comp_def, recordOf]

theorem nodup (surveyed : Surveyed style disk entry visited waiting survey) :
    (visited ++ waiting).Nodup := by
  rw [surveyed.found]
  exact nodup_eraseDups _

theorem pending (surveyed : Surveyed style disk entry visited waiting survey) :
    survey.dependencies.pending = waiting := by
  have none (m : Identity) (member : m ∈ visited) : (recordOf style disk m).isVisited = true := by
    obtain ⟨text, outcome, linked⟩ := surveyed.linked m (.tail _ member)
    rw [recordOf_eq linked]
    rfl
  have visitedPart : (visited.map (recordOf style disk)).filter (!·.isVisited) = [] := by
    simpa [List.filter_eq_nil_iff] using none
  have waitingPart : (waiting.map fun m => (⟨m, .none⟩ : Record)).filter (!·.isVisited) =
      waiting.map (⟨·, .none⟩) := by
    simp [List.filter_eq_self, Record.isVisited]
  rw [Dependencies.pending, surveyed.records, List.filter_append, visitedPart, waitingPart]
  simp [Function.comp_def]

theorem mem_iff (surveyed : Surveyed style disk entry visited waiting survey) {m : Identity} :
    m ∈ visited ++ waiting ↔ ∃ source ∈ entry :: visited, m ∈ references style disk source := by
  rw [surveyed.found, List.mem_eraseDups, List.mem_flatMap]

theorem hasFile (surveyed : Surveyed style disk entry visited waiting survey) {m : Identity}
    (member : m ∈ visited ++ waiting) : disk.HasFile m := by
  obtain ⟨source, -, refers⟩ := surveyed.mem_iff.mp member
  exact hasFile_of_mem_references refers

/-- No more modules are known than there are files. -/
theorem length_le (surveyed : Surveyed style disk entry visited waiting survey) :
    visited.length + waiting.length ≤ disk.files.length := by
  rw [← List.length_append]
  exact Disk.length_le_files surveyed.nodup fun m member => surveyed.hasFile member

/-- When no module waits, every record has the text of its module. -/
theorem source_eq (surveyed : Surveyed style disk entry visited [] survey) {record : Record}
    (member : record ∈ survey.dependencies.records) : record.identity ∈ visited ∧
      ∃ text outcome, (link style disk record.identity).alone = .ok (text, outcome) ∧
        record.source = some text := by
  rw [surveyed.records, List.map_nil, List.append_nil] at member
  obtain ⟨m, known, rfl⟩ := List.mem_map.mp member
  obtain ⟨text, outcome, linked⟩ := surveyed.linked m (.tail _ known)
  exact ⟨known, text, outcome, linked, by rw [recordOf_eq linked]⟩

theorem ofEntry {text : String} {outcome : Outcome}
    (linked : (link style disk entry).alone = .ok (text, outcome)) :
    Surveyed style disk entry [] (Dependencies.fresh [] outcome.dependencies)
      (absorb {} entry outcome) := by
  constructor
  · intro m member
    obtain rfl := List.mem_singleton.mp member
    exact ⟨text, outcome, linked⟩
  · exact Dependencies.discoverAll_records {} outcome.dependencies
  · simp [references_eq linked, Dependencies.fresh]
  · simp [absorb, warningsOf_eq linked]

/-- A visit to the first module that waits. -/
theorem visit {identity : Identity} {text : String} {outcome : Outcome}
    (surveyed : Surveyed style disk entry visited (identity :: waiting) survey)
    (linked : (link style disk identity).alone = .ok (text, outcome)) :
    Surveyed style disk entry (visited ++ [identity])
      (waiting ++ Dependencies.fresh (visited ++ identity :: waiting) outcome.dependencies)
      (settle survey identity text outcome) := by
  constructor
  · intro m member
    rw [← List.cons_append, List.mem_append, List.mem_singleton] at member
    obtain member | rfl := member
    · exact surveyed.linked m member
    · exact ⟨text, outcome, linked⟩
  · have discovered := Dependencies.discoverAll_records survey.dependencies outcome.dependencies
    rw [surveyed.identities, surveyed.records] at discovered
    have unique : survey.dependencies.identities.Nodup := by
      rw [surveyed.identities]
      exact surveyed.nodup
    have records : (absorb survey identity outcome).dependencies.records =
        visited.map (recordOf style disk) ++ ⟨identity, none⟩ ::
          (waiting ++ Dependencies.fresh (visited ++ identity :: waiting)
            outcome.dependencies).map (⟨·, none⟩) := by
      simp [absorb, discovered]
    have completed := Dependencies.complete_records text records
      (Dependencies.nodup_discoverAll unique _)
    simpa [settle, recordOf_eq linked] using completed
  · have known := Dependencies.fresh_eraseDups ((entry :: visited).flatMap (references style disk))
      outcome.dependencies
    rw [← surveyed.found] at known
    simpa [references_eq linked] using known
  · simp [settle, absorb, surveyed.warnings, warningsOf_eq linked]

end Surveyed

/-- Whatever was visited, what is known are the references so far. -/
theorem Reached.surveyed {visited : List Identity} {survey : Survey}
    (reached : Reached style disk entry visited survey) :
    Surveyed style disk entry visited survey.dependencies.pending survey := by
  induction reached with
  | entry linked =>
    have surveyed := Surveyed.ofEntry linked
    rwa [surveyed.pending]
  | visit _ first linked ih =>
    rw [first] at ih
    have surveyed := ih.visit linked
    rwa [surveyed.pending]

/-- Whether a module refers to another one. -/
def Refers (style : Script.Style) (disk : Disk) (source target : Identity) : Prop :=
  target ∈ references style disk source

/-- Every known module is reached from the entry by one or more references. -/
theorem Reached.reachable {visited : List Identity} {survey : Survey}
    (reached : Reached style disk entry visited survey) {m : Identity}
    (member : m ∈ survey.dependencies.identities) :
    Relation.TransGen (Refers style disk) entry m := by
  induction reached generalizing m with
  | entry linked =>
    have surveyed := Surveyed.ofEntry linked
    rw [surveyed.identities] at member
    obtain ⟨source, isEntry, refers⟩ := surveyed.mem_iff.mp member
    rw [List.mem_singleton.mp isEntry] at refers
    exact .single refers
  | @visit visited survey identity waiting _ _ reached first linked ih =>
    have before := reached.surveyed
    rw [first] at before
    have after := before.visit linked
    rw [after.identities] at member
    obtain ⟨source, known, refers⟩ := after.mem_iff.mp member
    rcases List.mem_cons.mp known with rfl | wasVisited
    · exact .single refers
    · have known : source ∈ survey.dependencies.identities := by
        rw [before.identities]
        simp only [List.mem_append, List.mem_cons] at wasVisited ⊢
        tauto
      exact .tail (ih known) refers

end ScriptBundle.Build
