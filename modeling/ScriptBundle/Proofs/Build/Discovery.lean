import ScriptBundle.Dependencies
import ScriptBundle.Proofs.Repetitions

/-! The order of discovery. New modules are put behind those that are known, each once, so the modules
are always the references so far without repetitions. -/
namespace ScriptBundle.Dependencies

/-- The modules of a list that are not known, each once. -/
def fresh (known found : List Identity) : List Identity := (found.removeAll known).eraseDups

theorem mem_fresh {known found : List Identity} {identity : Identity} :
    identity ∈ fresh known found ↔ identity ∈ found ∧ identity ∉ known := by
  simp [fresh, List.removeAll]

/-- What is behind the references so far does not depend on how often they repeat each other. -/
theorem fresh_eraseDups (references found : List Identity) :
    references.eraseDups ++ fresh references.eraseDups found = (references ++ found).eraseDups := by
  have same : found.removeAll references.eraseDups = found.removeAll references := by
    apply List.filter_congr
    simp [List.elem_eq_contains]
  rw [List.eraseDups_append, fresh, same]

theorem fresh_cons (known found : List Identity) (identity : Identity) :
    fresh known (identity :: found) = if identity ∈ known then fresh known found
      else identity :: fresh (known ++ [identity]) found := by
  unfold fresh
  split_ifs with member
  · simp [List.cons_removeAll, member]
  · have unknown : known.contains identity = false := by simpa using member
    have later : (found.removeAll known).filter (fun other => !other == identity) =
        found.removeAll (known ++ [identity]) := by
      simp only [List.removeAll, List.filter_filter]
      apply List.filter_congr
      intro other _
      simp [Bool.and_comm, beq_eq_decide]
    rw [List.cons_removeAll, if_pos unknown, List.eraseDups_cons, later]

/-- What is found in two parts, the second when the first is known. -/
theorem fresh_append (known found others : List Identity) :
    fresh known (found ++ others) = fresh known found ++ fresh (known ++ fresh known found) others := by
  induction found generalizing known with
  | nil => simp [fresh]
  | cons identity rest ih =>
    rw [List.cons_append, fresh_cons, fresh_cons]
    split_ifs with member
    · exact ih known
    · rw [ih, List.cons_append, List.append_assoc, List.singleton_append]

/-- Discovering modules one by one puts those that are not known behind the others. -/
theorem discoverAll_records (d : Dependencies) (found : List Identity) :
    (found.foldl discover d).records =
      d.records ++ (fresh d.identities found).map (⟨·, none⟩) := by
  induction found generalizing d with
  | nil => simp [fresh]
  | cons identity rest ih =>
    rw [List.foldl_cons, ih, fresh_cons]
    unfold discover
    split_ifs with known
    · rfl
    · simp [identities]

theorem identities_discoverAll (d : Dependencies) (found : List Identity) :
    (found.foldl discover d).identities = d.identities ++ fresh d.identities found := by
  simp [identities, discoverAll_records, Function.comp_def]

/-- No module is known twice, whatever is discovered. -/
theorem nodup_discoverAll {d : Dependencies} (unique : d.identities.Nodup) (found : List Identity) :
    (found.foldl discover d).identities.Nodup := by
  rw [identities_discoverAll, List.nodup_append]
  refine ⟨unique, nodup_eraseDups _, ?_⟩
  rintro identity known other new rfl
  exact (mem_fresh.mp new).2 known

/-- Completing a module leaves all others as they are. -/
theorem complete_records {d : Dependencies} {identity : Identity} {before after : List Record}
    (text : String) (records : d.records = before ++ ⟨identity, none⟩ :: after)
    (unique : d.identities.Nodup) :
    (d.complete identity text).records = before ++ ⟨identity, some text⟩ :: after := by
  simp only [identities, records, List.map_append, List.map_cons, List.nodup_append,
    List.nodup_cons, List.mem_map, List.mem_cons] at unique
  obtain ⟨-, ⟨notAfter, -⟩, apart⟩ := unique
  have others (rs : List Record) (without : ∀ r ∈ rs, r.identity ≠ identity) :
      (rs.map fun r => if r.identity = identity then { r with source := some text } else r) = rs := by
    refine (List.map_congr_left fun r member => ?_).trans (List.map_id rs)
    exact if_neg (without r member)
  rw [complete, records]
  simp only [List.map_append, List.map_cons, if_true]
  rw [others before, others after]
  · intro r member same
    exact notAfter ⟨r, member, same⟩
  · intro r member
    exact apart _ ⟨r, member, rfl⟩ _ (.inl rfl)

end ScriptBundle.Dependencies
