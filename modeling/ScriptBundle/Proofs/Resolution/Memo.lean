import ScriptBundle.Proofs.Resolution.Candidates

/-! The memo of a run. While a memo is truthful, which it stays on a disk that does not change, every
answer is the one that a search would give; so a step that only resolves specifiers has the same
result from every truthful memo. -/
namespace ScriptBundle

variable {α β : Type}

theorem mem_toOption {ε : Type} {r : Except ε α} {a : α} : a ∈ r.toOption ↔ r = .ok a := by
  cases r <;> simp [Except.toOption, eq_comm]

namespace Work

/-- The result of a step that starts from a session, and the session behind it. -/
def runFrom (w : Work α) (s : Session) : Except BundleError α × Session := (ExceptT.run w).run s

/-- The result of a step when nothing was found before. -/
def alone (w : Work α) : Except BundleError α := (w.runFrom {}).1

theorem runFrom_throw (e : BundleError) (s : Session) :
    (throw e : Work α).runFrom s = (.error e, s) := rfl

theorem runFrom_bind (w : Work α) (next : α → Work β) (s : Session) :
    (w >>= next).runFrom s = match w.runFrom s with
      | (.ok a, s') => (next a).runFrom s'
      | (.error e, s') => (.error e, s') := by
  simp only [runFrom, ExceptT.run_bind, StateT.run_bind]
  change (match (ExceptT.run w).run s with | (r, s') => _) = _
  cases (ExceptT.run w).run s with
  | mk r s' => cases r <;> rfl

theorem runFrom_get (s : Session) : (get : Work Session).runFrom s = (.ok s, s) := rfl

theorem runFrom_ofLog (step : StateM Log α) (s : Session) :
    (Work.ofLog step).runFrom s = (.ok (step.run s.log).1, { s with log := (step.run s.log).2 }) :=
  rfl

end Work

namespace Resolution

/-- The answer of a search when nothing is remembered. -/
def answer (disk : Disk) (specifier : String) (importer : Path) : Except BundleError Identity :=
  match find? disk (directoryOf importer) specifier with
  | some identity => .ok identity
  | none => .error (.resolution specifier importer)

/-- What is remembered is answered again, even if it is not true any more. -/
theorem resolve_remembered (disk : Disk) {specifier : String} {importer : Path} {s : Session}
    {identity : Identity}
    (known : s.memo.get? (directoryOf importer) specifier = some identity) :
    ∃ log, (resolve disk specifier importer).runFrom s = (.ok identity, { s with log }) ∧
      s.log.GrowsIn ["reqless::resolver"] log := by
  refine ⟨s.log.push (report .trace
    ("Resolver cache hit: " ++ specifier ++ " -> " ++ identity.quoted)), ?_,
    .push s.log (by simp [report])⟩
  simp only [resolve, Work.runFrom_bind, Work.runFrom_get, known]
  rfl

/-- What is not remembered is searched for, and remembered if it is found. -/
theorem resolve_searched (disk : Disk) {specifier : String} {importer : Path} {s : Session}
    (unknown : s.memo.get? (directoryOf importer) specifier = none) :
    ∃ log, (resolve disk specifier importer).runFrom s =
        (answer disk specifier importer,
          { memo := match find? disk (directoryOf importer) specifier with
              | some identity => s.memo.insert (directoryOf importer) specifier identity
              | none => s.memo
            log }) ∧
      s.log.GrowsIn ["reqless::resolver"] log := by
  have reports : "reqless::resolver" ∈ ["reqless::resolver"] := by simp
  obtain ⟨found, yields, first⟩ := yields_locate reports disk (directoryOf importer) 1
    (attempts specifier)
  obtain ⟨log, run, grows⟩ := yields s.log
  have search : find? disk (directoryOf importer) specifier =
      (found.map Prod.fst).bind disk.fileAt := by
    rw [first, find?, findSome?_fileAt, candidates]
  simp only [resolve, answer, Work.runFrom_bind, Work.runFrom_get, unknown, Work.runFrom_ofLog, run]
  cases found with
  | none =>
    have missing : find? disk (directoryOf importer) specifier = none := search
    simp only [missing, Work.runFrom_throw]
    exact ⟨log, rfl, grows⟩
  | some hit =>
    obtain ⟨file, number⟩ := hit
    have isFile := List.find?_some first.symm
    obtain ⟨identity, at_⟩ := Option.isSome_iff_exists.mp (disk.isSome_fileAt file ▸ isFile)
    have located : find? disk (directoryOf importer) specifier = some identity := by
      rw [search]
      exact at_
    obtain ⟨-, canonicalized⟩ := (disk.fileAt_eq_some_iff file identity).mp at_
    simp only [located, canonicalized]
    exact ⟨_, rfl, grows.trans (.push log (by simp [report]))⟩

/-- A search that starts with nothing gives the answer. -/
theorem resolve_alone (disk : Disk) (specifier : String) (importer : Path) :
    (resolve disk specifier importer).alone = answer disk specifier importer := by
  have unknown : ({} : Session).memo.get? (directoryOf importer) specifier = none := rfl
  obtain ⟨log, run, -⟩ := resolve_searched disk unknown
  rw [Work.alone, run]

/-- What a search finds is a file. -/
theorem hasFile_of_resolve_alone {disk : Disk} {specifier : String} {importer : Path}
    {identity : Identity} (found : (resolve disk specifier importer).alone = .ok identity) :
    disk.HasFile identity := by
  rw [resolve_alone, answer] at found
  split at found
  next identity' at_ =>
    cases found
    exact hasFile_of_find? at_
  next => cases found

end Resolution

namespace Memo

theorem get?_insert (memo : Memo) (directory other : Path) (specifier other' : String)
    (identity : Identity) : (memo.insert directory specifier identity).get? other other' =
      if other.components = directory.components ∧ other' = specifier then some identity
      else memo.get? other other' := by
  simp only [get?, insert, List.lookup_cons]
  split_ifs with same
  · obtain ⟨components, rfl⟩ := same
    simp [components]
  · have apart : ((other.components, other') == (directory.components, specifier)) = false := by
      simpa using same
    simp [apart]

/-- Whether a search on a disk finds everything that is remembered. -/
def Truthful (memo : Memo) (disk : Disk) : Prop :=
  ∀ directory specifier identity, memo.get? directory specifier = some identity →
    Resolution.find? disk directory specifier = some identity

theorem truthful_empty (disk : Disk) : Memo.empty.Truthful disk := by
  simp [Truthful, get?, empty]

theorem Truthful.insert {memo : Memo} {disk : Disk} (truthful : memo.Truthful disk)
    {directory : Path} {specifier : String} {identity : Identity}
    (found : Resolution.find? disk directory specifier = some identity) :
    (memo.insert directory specifier identity).Truthful disk := by
  intro other other' identity' known
  rw [get?_insert] at known
  split_ifs at known with same
  · obtain ⟨components, rfl⟩ := same
    rwa [Resolution.find?_sameComponents disk components, ← Option.some.inj known]
  · exact truthful _ _ _ known

end Memo

/-- A step whose result is the same from every truthful memo, which it keeps truthful. It reports on
resolution and rewriting only. -/
structure Steady (disk : Disk) (w : Work α) : Prop where
  result : ∀ s : Session, s.memo.Truthful disk → (w.runFrom s).1 = w.alone
  memo : ∀ s : Session, s.memo.Truthful disk → (w.runFrom s).2.memo.Truthful disk
  log : ∀ s : Session, s.memo.Truthful disk →
    s.log.GrowsIn ["reqless::resolver", "reqless::rewriter"] (w.runFrom s).2.log

namespace Steady

variable {disk : Disk}

theorem pure (a : α) : Steady disk (Pure.pure a) :=
  ⟨fun _ _ => rfl, fun _ truthful => truthful, fun s _ => .refl _ s.log⟩

theorem throw (e : BundleError) : Steady disk (throw e : Work α) :=
  ⟨fun _ _ => rfl, fun _ truthful => truthful, fun s _ => .refl _ s.log⟩

theorem push {report : Report} (on : report.topic ∈ ["reqless::resolver", "reqless::rewriter"]) :
    Steady disk (modify (·.push report)) :=
  ⟨fun _ _ => rfl, fun _ truthful => truthful, fun s _ => .push s.log on⟩

theorem bind {w : Work α} {next : α → Work β} (first : Steady disk w)
    (second : ∀ a, Steady disk (next a)) : Steady disk (w >>= next) := by
  -- From any truthful session the first step ends like the one that starts with nothing.
  have empty := Memo.truthful_empty disk
  constructor
  · intro s truthful
    have same := first.result s truthful
    have memo := first.memo s truthful
    have memo' := first.memo {} empty
    rw [Work.alone] at same ⊢
    rw [Work.runFrom_bind, Work.runFrom_bind]
    cases run : w.runFrom s with
    | mk r s' =>
      cases run' : w.runFrom {} with
      | mk r' s'' =>
        simp only [run, run'] at same memo memo'
        subst same
        cases r with
        | error e => rfl
        | ok a => exact ((second a).result s' memo).trans ((second a).result s'' memo').symm
  · intro s truthful
    have memo := first.memo s truthful
    rw [Work.runFrom_bind]
    cases run : w.runFrom s with
    | mk r s' =>
      rw [run] at memo
      cases r with
      | error e => exact memo
      | ok a => exact (second a).memo s' memo
  · intro s truthful
    have memo := first.memo s truthful
    have log := first.log s truthful
    rw [Work.runFrom_bind]
    cases run : w.runFrom s with
    | mk r s' =>
      rw [run] at memo log
      cases r with
      | error e => exact log
      | ok a => exact log.trans ((second a).log s' memo)

/-- Two steps together give alone what each gives alone. -/
theorem alone_bind {w : Work α} {next : α → Work β} (first : Steady disk w)
    (second : ∀ a, Steady disk (next a)) :
    (w >>= next).alone = w.alone >>= fun a => (next a).alone := by
  have memo := first.memo {} (Memo.truthful_empty disk)
  rw [Work.alone, Work.alone, Work.runFrom_bind]
  cases run : w.runFrom {} with
  | mk r s =>
    rw [run] at memo
    cases r with
    | error e => rfl
    | ok a => exact (second a).result s memo

/-- A specifier is resolved to the same module whatever was found before. -/
theorem resolve (disk : Disk) (specifier : String) (importer : Path) :
    Steady disk (Resolution.resolve disk specifier importer) := by
  have step (s : Session) (truthful : s.memo.Truthful disk) : ∃ s',
      (Resolution.resolve disk specifier importer).runFrom s =
        (Resolution.answer disk specifier importer, s') ∧
      s'.memo.Truthful disk ∧ s.log.GrowsIn ["reqless::resolver", "reqless::rewriter"] s'.log := by
    have widen {log : Log} (grows : s.log.GrowsIn ["reqless::resolver"] log) :
        s.log.GrowsIn ["reqless::resolver", "reqless::rewriter"] log :=
      fun other apart => grows other (by simp_all)
    cases known : s.memo.get? (Resolution.directoryOf importer) specifier with
    | some identity =>
      obtain ⟨log, run, grows⟩ := Resolution.resolve_remembered disk known
      have found := truthful _ _ _ known
      refine ⟨{ s with log }, ?_, truthful, widen grows⟩
      rw [run, Resolution.answer, found]
    | none =>
      obtain ⟨log, run, grows⟩ := Resolution.resolve_searched disk known
      refine ⟨_, run, ?_, widen grows⟩
      dsimp only
      split
      next identity found => exact truthful.insert found
      next => exact truthful
  constructor
  · intro s truthful
    obtain ⟨s', run, -⟩ := step s truthful
    rw [run, Resolution.resolve_alone]
  · intro s truthful
    obtain ⟨s', run, memo, -⟩ := step s truthful
    rwa [run]
  · intro s truthful
    obtain ⟨s', run, -, log⟩ := step s truthful
    rwa [run]

end Steady

end ScriptBundle
