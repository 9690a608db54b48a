import ScriptBundle.Proofs.Rewriting.Alone

/-! Look-ups of one resolver among changes of the disk. A look-up that repeats an earlier one has the
answer of the first that succeeded; any other look-up searches the disk as it is. -/
namespace ScriptBundle.Resolution

/-- What happens while a resolver is in use. -/
inductive Event where
  | resolve (specifier : String) (importer : Path)
  | write (file : Path) (content : ByteArray)
  | remove (file : Path)

/-- The disk behind an event. A change that the disk refuses leaves it as it is. -/
def Event.change (disk : Disk) : Event → Disk
  | .resolve .. => disk
  | .write file content => (disk.writeBytes file content).toOption.getD disk
  | .remove file => (disk.removeFile file).toOption.getD disk

/-- A look-up on the disk of its time, and its answer. -/
structure Lookup where
  disk : Disk
  specifier : String
  importer : Path
  answer : Except BundleError Identity

/-- The look-ups among some events, oldest first. -/
def lookups : List Event → Disk → Session → List Lookup
  | [], _, _ => []
  | .resolve specifier importer :: rest, disk, s =>
    let run := (resolve disk specifier importer).runFrom s
    ⟨disk, specifier, importer, run.1⟩ :: lookups rest disk run.2
  | event :: rest, disk, s => lookups rest (event.change disk) s

/-- Whether a look-up asks for a specifier from the directory of an importer, however it is spelt. -/
def Lookup.Asks (l : Lookup) (specifier : String) (importer : Path) : Prop :=
  l.specifier = specifier ∧
    (directoryOf l.importer).components = (directoryOf importer).components

instance (l : Lookup) (specifier : String) (importer : Path) :
    Decidable (l.Asks specifier importer) :=
  inferInstanceAs (Decidable (_ ∧ _))

/-- What a look-up has found for a specifier and an importer. -/
def Lookup.found? (l : Lookup) (specifier : String) (importer : Path) : Option Identity :=
  if l.Asks specifier importer then l.answer.toOption else none

/-- What the first of some look-ups that succeeded has found for a specifier and an importer. -/
def firstFound? (past : List Lookup) (specifier : String) (importer : Path) : Option Identity :=
  past.findSome? (·.found? specifier importer)

theorem firstFound?_append (past : List Lookup) (l : Lookup) (specifier : String) (importer : Path) :
    firstFound? (past ++ [l]) specifier importer =
      (firstFound? past specifier importer).or (l.found? specifier importer) := by
  simp only [firstFound?, List.findSome?_append, List.findSome?_cons, List.findSome?_nil]
  cases l.found? specifier importer <;> rfl

/-- Whether a memo holds exactly what some look-ups have found. -/
def Records (memo : Memo) (past : List Lookup) : Prop :=
  ∀ specifier importer,
    memo.get? (directoryOf importer) specifier = firstFound? past specifier importer

theorem records_empty : Records .empty [] := fun _ _ => rfl

/-- A look-up among earlier ones has the first answer, or searches; and it is recorded. -/
theorem Records.resolve {s : Session} {past : List Lookup} (records : Records s.memo past)
    (disk : Disk) (specifier : String) (importer : Path) :
    ∃ s', (resolve disk specifier importer).runFrom s =
        (match firstFound? past specifier importer with
          | some identity => .ok identity
          | none => answer disk specifier importer, s') ∧
      Records s'.memo (past ++ [⟨disk, specifier, importer,
        ((Resolution.resolve disk specifier importer).runFrom s).1⟩]) := by
  cases known : s.memo.get? (directoryOf importer) specifier with
  | some identity =>
    obtain ⟨log, run, -⟩ := resolve_remembered disk known
    have first := (records specifier importer).symm.trans known
    rw [run, first]
    refine ⟨_, rfl, fun specifier' importer' => ?_⟩
    rw [firstFound?_append, ← records specifier' importer']
    cases older : s.memo.get? (directoryOf importer') specifier' with
    | some identity' => rfl
    | none =>
      -- The same question had an answer, so this one is another.
      have other : ¬ (Lookup.mk disk specifier importer (.ok identity)).Asks specifier' importer' := by
        rintro ⟨rfl, components⟩
        rw [Memo.get?, ← components, ← Memo.get?, known] at older
        cases older
      simp [Lookup.found?, other]
  | none =>
    obtain ⟨log, run, -⟩ := resolve_searched disk known
    have first := (records specifier importer).symm.trans known
    rw [run, first]
    refine ⟨_, rfl, fun specifier' importer' => ?_⟩
    rw [firstFound?_append, ← records specifier' importer']
    cases found : find? disk (directoryOf importer) specifier with
    | none => simp [answer, found, Lookup.found?, Except.toOption]
    | some identity =>
      simp only [answer, found, Lookup.found?, Memo.get?_insert]
      by_cases same : (Lookup.mk disk specifier importer (.ok identity)).Asks specifier' importer'
      · obtain ⟨rfl, components⟩ := same
        have unknown : s.memo.get? (directoryOf importer') specifier = none := by
          rw [Memo.get?, ← components]
          exact known
        simp [Lookup.Asks, components, unknown, Except.toOption]
      · have apart : ¬ ((directoryOf importer').components = (directoryOf importer).components ∧
            specifier' = specifier) := by
          rintro ⟨components, spelt⟩
          exact same ⟨spelt.symm, components.symm⟩
        simp [same, apart]

/-- Every look-up has the first answer for its specifier and directory, or the answer of a search that
starts with nothing. -/
theorem lookups_from {events : List Event} {disk : Disk} {s : Session}
    {past before after : List Lookup} {l : Lookup} (records : Records s.memo past)
    (run : lookups events disk s = before ++ l :: after) :
    l.answer = match firstFound? (past ++ before) l.specifier l.importer with
      | some identity => .ok identity
      | none => (resolve l.disk l.specifier l.importer).alone := by
  induction events generalizing disk s past before with
  | nil => simp [lookups] at run
  | cons event rest ih =>
    cases event with
    | write file content => exact ih records run
    | remove file => exact ih records run
    | resolve specifier importer =>
      obtain ⟨s', step, records'⟩ := records.resolve disk specifier importer
      simp only [lookups, step] at run records'
      cases before with
      | nil =>
        obtain ⟨rfl, -⟩ := List.cons.inj run
        simp only [List.append_nil, resolve_alone]
      | cons first before =>
        obtain ⟨rfl, remaining⟩ := List.cons.inj run
        have later := ih records' remaining
        rwa [List.append_assoc] at later

/-- A look-up that fails leaves the memo as it is. -/
theorem resolve_failed {disk : Disk} {specifier : String} {importer : Path} {s : Session}
    {e : BundleError} (failed : ((resolve disk specifier importer).runFrom s).1 = .error e) :
    ((resolve disk specifier importer).runFrom s).2.memo = s.memo := by
  cases known : s.memo.get? (directoryOf importer) specifier with
  | some identity =>
    obtain ⟨log, run, -⟩ := resolve_remembered disk known
    rw [run]
  | none =>
    obtain ⟨log, run, -⟩ := resolve_searched disk known
    rw [run, answer] at failed
    rw [run]
    cases found : find? disk (directoryOf importer) specifier with
    | none => rfl
    | some identity =>
      rw [found] at failed
      cases failed

/-- On a disk that does not change, every look-up has the answer of a search that starts with
nothing. -/
theorem lookups_unchanged {disk : Disk} {s : Session} (truthful : s.memo.Truthful disk)
    (calls : List (String × Path)) :
    (lookups (calls.map fun call => .resolve call.1 call.2) disk s).map (·.answer) =
      calls.map fun call => (resolve disk call.1 call.2).alone := by
  induction calls generalizing s with
  | nil => rfl
  | cons call rest ih =>
    have steady := Steady.resolve disk call.1 call.2
    simp only [List.map_cons, lookups, steady.result s truthful, ih (steady.memo s truthful)]

/-- The results of rewriting modules one after the other with one memo. A module that fails does not
stop the others. -/
def rewriteEach (style : Script.Style) (disk : Disk) :
    List (Path × String) → Session → List (Except BundleError (String × Rewriting.Outcome))
  | [], _ => []
  | (path, source) :: rest, s =>
    let run := (rewriteSource style disk path source).runFrom s
    run.1 :: rewriteEach style disk rest run.2

theorem rewriteEach_truthful (style : Script.Style) {disk : Disk} {s : Session}
    (truthful : s.memo.Truthful disk) (modules : List (Path × String)) :
    rewriteEach style disk modules s =
      modules.map fun m => (rewriteSource style disk m.1 m.2).alone := by
  induction modules generalizing s with
  | nil => rfl
  | cons m rest ih =>
    have steady : Steady disk (rewriteSource style disk m.1 m.2) := .rewriteSource style m.1 m.2
    simp only [List.map_cons, rewriteEach, steady.result s truthful, ih (steady.memo s truthful)]

/-- One resolver answers every look-up with what was found first for its specifier and directory, or
else as a resolver of its own would; so as long as the disk stays the same it makes no difference. -/
theorem resolver_transparent (disk : Disk) (log : Log) :
    (∀ (events : List Event) (before after : List Lookup) (l : Lookup),
      lookups events disk { log } = before ++ l :: after →
      l.answer = match firstFound? before l.specifier l.importer with
        | some identity => .ok identity
        | none => (resolve l.disk l.specifier l.importer).alone) ∧
    (∀ (specifier : String) (importer : Path) (s : Session) (e : BundleError),
      ((resolve disk specifier importer).runFrom s).1 = .error e →
      ((resolve disk specifier importer).runFrom s).2.memo = s.memo) ∧
    (∀ calls : List (String × Path),
      (lookups (calls.map fun call => .resolve call.1 call.2) disk { log }).map (·.answer) =
        calls.map fun call => (resolve disk call.1 call.2).alone) ∧
    (∀ (style : Script.Style) (modules : List (Path × String)),
      rewriteEach style disk modules { log } =
        modules.map fun m => (rewriteSource style disk m.1 m.2).alone) := by
  have truthful := Memo.truthful_empty disk
  refine ⟨?_, ?_, lookups_unchanged truthful, fun style => rewriteEach_truthful style truthful⟩
  · intro events before after l run
    exact lookups_from records_empty run
  · intro specifier importer s e failed
    exact resolve_failed failed

/-- A disk with one module, found from a directory that is spelt in two ways, before and after the
module is gone. -/
def shelf : Disk := ⟨[(["a"], .directory), (["a", "x.ts"], .file "".toUTF8)], []⟩

def respelt : List Event :=
  [.resolve "./x" ⟨"/a/./m.ts"⟩, .remove ⟨"/a/x.ts"⟩, .resolve "./x" ⟨"/a//m.ts"⟩]

theorem resolver_transparent_respelt : ∃ before l, lookups respelt shelf {} = before ++ [l] ∧
    l.answer = .ok ⟨"/a/x.ts"⟩ ∧
    (resolve l.disk l.specifier l.importer).alone = .error (.resolution "./x" ⟨"/a//m.ts"⟩) ∧
    ((resolve l.disk l.specifier l.importer).runFrom {}).2.memo = .empty := by
  obtain ⟨answers, -⟩ := resolver_transparent shelf .empty
  obtain ⟨-, failing, -⟩ := resolver_transparent (Event.change shelf (.remove ⟨"/a/x.ts"⟩)) .empty
  have first : firstFound? [⟨shelf, "./x", ⟨"/a/./m.ts"⟩,
      ((resolve shelf "./x" ⟨"/a/./m.ts"⟩).runFrom {}).1⟩] "./x" ⟨"/a//m.ts"⟩ =
      some ⟨"/a/x.ts"⟩ := by decide +kernel
  have gone : (resolve (Event.change shelf (.remove ⟨"/a/x.ts"⟩)) "./x" ⟨"/a//m.ts"⟩).alone =
      .error (.resolution "./x" ⟨"/a//m.ts"⟩) := by decide +kernel
  refine ⟨[_], _, rfl, ?_, gone, ?_⟩
  · rw [answers respelt [_] [] _ rfl, first]
  · exact failing "./x" ⟨"/a//m.ts"⟩ {} _ gone

end ScriptBundle.Resolution
