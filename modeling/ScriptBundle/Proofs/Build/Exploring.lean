import ScriptBundle.Proofs.Build.Linked

/-! Runs as functions of what linking each module alone gives. Nothing else decides how a run goes: two
runs on which the modules that are visited link alike go alike, and texts decide nothing. -/
namespace ScriptBundle.Build

open Rewriting (Outcome)

/-- What linking gives for each module. -/
abbrev Linking := Identity → Except BundleError (String × Outcome)

/-- Linking each module alone. -/
def alone (style : Script.Style) (disk : Disk) : Linking := fun m => (link style disk m).alone

/-- The survey behind visits to some known modules. -/
def exploreAll (linking : Linking) : List Identity → Survey → Except BundleError Survey
  | [], survey => .ok survey
  | m :: rest, survey => do
    let (text, outcome) ← linking m
    exploreAll linking rest (settle survey m text outcome)

/-- At most `fuel` generations, and the survey behind them. -/
def explore (linking : Linking) : Nat → Survey → Except BundleError (List (List Identity) × Survey)
  | 0, survey => .ok ([], survey)
  | fuel + 1, survey =>
    if survey.dependencies.pending.isEmpty then .ok ([], survey)
    else do
      let middle ← exploreAll linking survey.dependencies.pending survey
      (explore linking fuel middle).map fun found =>
        (survey.dependencies.pending :: found.1, found.2)

/-- All that the visits to an entry and to the modules that it needs find. -/
def exploreFrom (linking : Linking) (fuel : Nat) (entry : Identity) :
    Except BundleError ((String × List (List Identity)) × Survey) := do
  let (text, outcome) ← linking entry
  (explore linking fuel (absorb {} entry outcome)).map fun found => ((text, found.1), found.2)

section Agreement

variable {linking other : Linking}

theorem exploreAll_congr {ms : List Identity} (agree : ∀ m ∈ ms, other m = linking m)
    (survey : Survey) : exploreAll other ms survey = exploreAll linking ms survey := by
  induction ms generalizing survey with
  | nil => rfl
  | cons m rest ih =>
    have first := agree m (.head _)
    have later := ih fun m member => agree m (.tail _ member)
    simp only [exploreAll, first, later]

theorem explore_done {survey : Survey} (nothing : survey.dependencies.pending = []) (fuel : Nat) :
    explore linking fuel survey = .ok ([], survey) := by
  cases fuel with
  | zero => rfl
  | succ fuel =>
    rw [explore, nothing]
    rfl

/-- While modules wait, a run visits all of them and then goes on. -/
theorem explore_eq_ok {fuel : Nat} {survey last : Survey} {generations : List (List Identity)}
    (some : survey.dependencies.pending ≠ []) :
    explore linking (fuel + 1) survey = .ok (generations, last) ↔
      ∃ middle rest, exploreAll linking survey.dependencies.pending survey = .ok middle ∧
        explore linking fuel middle = .ok (rest, last) ∧
        generations = survey.dependencies.pending :: rest := by
  rw [explore, if_neg (by simpa using some), bind_eq_ok]
  constructor
  · rintro ⟨middle, first, run⟩
    cases later : explore linking fuel middle with
    | error e =>
      rw [later] at run
      cases run
    | ok found =>
      rw [later] at run
      obtain ⟨rfl, rfl⟩ := Prod.mk.inj (Except.ok.inj run)
      exact ⟨middle, found.1, first, later, rfl⟩
  · rintro ⟨middle, rest, first, later, rfl⟩
    exact ⟨middle, first, by rw [later]; rfl⟩

/-- A run that came to its end goes the same way if the modules it visits link the same way, and with
any fuel that is enough for it. -/
theorem explore_congr {fuel fuel' : Nat} {survey last : Survey} {generations : List (List Identity)}
    (run : explore linking fuel survey = .ok (generations, last))
    (nothing : last.dependencies.pending = []) (enough : generations.length ≤ fuel')
    (agree : ∀ m ∈ generations.flatten, other m = linking m) :
    explore other fuel' survey = .ok (generations, last) := by
  induction fuel generalizing fuel' survey generations with
  | zero =>
    obtain ⟨rfl, rfl⟩ := Prod.mk.inj (Except.ok.inj run)
    exact explore_done nothing fuel'
  | succ fuel ih =>
    by_cases done : survey.dependencies.pending = []
    · rw [explore_done done] at run ⊢
      exact run
    · obtain ⟨middle, rest, first, later, rfl⟩ := (explore_eq_ok done).mp run
      cases fuel' with
      | zero => simp at enough
      | succ fuel' =>
        have here : ∀ m ∈ survey.dependencies.pending, other m = linking m :=
          fun m member => agree m (by simp [member])
        have below : ∀ m ∈ rest.flatten, other m = linking m :=
          fun m member => agree m (List.mem_append_right _ member)
        refine (explore_eq_ok done).mpr ⟨middle, rest, ?_, ih later ?_ below, rfl⟩
        · rw [exploreAll_congr here, first]
        · simpa using enough

theorem exploreFrom_congr {fuel fuel' : Nat} {entry : Identity}
    {found : (String × List (List Identity)) × Survey} (run : exploreFrom linking fuel entry = .ok found)
    (nothing : found.2.dependencies.pending = []) (enough : found.1.2.length ≤ fuel')
    (agree : ∀ m ∈ entry :: found.1.2.flatten, other m = linking m) :
    exploreFrom other fuel' entry = .ok found := by
  obtain ⟨here, others⟩ := List.forall_mem_cons.mp agree
  rw [exploreFrom, here]
  obtain ⟨⟨text, outcome⟩, linked, explored⟩ := bind_eq_ok.mp run
  rw [linked]
  change Except.map _ (explore other fuel' (absorb {} entry outcome)) = _
  change Except.map _ (explore linking fuel (absorb {} entry outcome)) = _ at explored
  cases first : explore linking fuel (absorb {} entry outcome) with
  | error e =>
    rw [first] at explored
    cases explored
  | ok behind =>
    rw [first] at explored
    obtain rfl := Except.ok.inj explored
    rw [explore_congr first nothing enough others]
    rfl

end Agreement

end ScriptBundle.Build
