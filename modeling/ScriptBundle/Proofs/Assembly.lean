import ScriptBundle.Assembly

/-! What a program has of the modules that it is put together from. The assembler accepts records that
were all visited, and of each of them the program has the text. -/
namespace ScriptBundle.Assembly

/-- The texts of modules in a program. -/
def embedded (pieces : List Piece) : List String :=
  pieces.filterMap fun
    | .line _ _ => none
    | .verbatim text => some text

@[simp] theorem embedded_append (first second : List Piece) :
    embedded (first ++ second) = embedded first ++ embedded second :=
  List.filterMap_append

theorem embedded_initializer (instantiation : Instantiation) (identity : Identity)
    (source : String) : embedded (initializer instantiation identity source) = [source] := by
  cases instantiation <;> rfl

theorem embedded_dispatch (instantiation : Instantiation) : embedded (dispatch instantiation) = [] := by
  cases instantiation <;> rfl

/-- Only modules bring texts into a program. -/
theorem embedded_program (instantiation : Instantiation) (entrySource : String)
    (modules : List (Identity × String)) :
    embedded (program instantiation entrySource modules) = modules.map (·.2) ++ [entrySource] := by
  have registered : embedded (modules.flatMap fun m => initializer instantiation m.1 m.2) =
      modules.map (·.2) := by
    induction modules with
    | nil => rfl
    | cons m rest ih =>
      rw [List.flatMap_cons, embedded_append, embedded_initializer, ih, List.map_cons,
        List.singleton_append]
  simp only [program, embedded_append, registered, embedded_dispatch]
  simp [embedded]

/-- The modules that were visited, with their texts. -/
def sourced (records : List Record) : List (Identity × String) :=
  records.filterMap fun r => r.source.map (r.identity, ·)

theorem finished_sourced {records : List Record} (visited : ∀ r ∈ records, r.isVisited = true) :
    finished records = .ok (sourced records) ∧
      (sourced records).map (some ·.2) = records.map (·.source) := by
  induction records with
  | nil => exact ⟨rfl, rfl⟩
  | cons first rest ih =>
    obtain ⟨here, others⟩ := List.forall_mem_cons.mp visited
    obtain ⟨identity, source⟩ := first
    cases source with
    | none => cases here
    | some source =>
      obtain ⟨finished, sources⟩ := ih others
      rw [Assembly.finished, finished]
      exact ⟨rfl, by simpa [sourced] using sources⟩

end ScriptBundle.Assembly
