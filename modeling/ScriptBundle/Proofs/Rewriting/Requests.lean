import ScriptBundle.Proofs.Resolution.Remembered
import ScriptBundle.Proofs.Rewriting.Visiting

/-! What linking asks for. A step of linking gives a value that its module decides, and makes requests
that can be listed before it runs: it refuses an item, refers to a module or counts the arguments of a
call. The first request that cannot be met ends the step, and if there is none, the outcome is read
off the list. This holds from every session; what is remembered there counts as an answer. -/
namespace ScriptBundle.Rewriting

open Script

/-- What a step of linking asks of its surroundings. -/
inductive Request where
  | refuse (construct : String)
  | refer (specifier : String)
  | warn (count : Nat)
  deriving DecidableEq

namespace Request

def specifier? : Request → Option String
  | refer specifier => some specifier
  | _ => none

def count? : Request → Option Nat
  | warn count => some count
  | _ => none

/-- Why a request cannot be met, if it cannot. -/
def fault? (ask : String → Except BundleError Identity) (importer : Path) :
    Request → Option BundleError
  | refuse construct => some (.unsupportedSyntax importer construct)
  | refer specifier =>
    match ask specifier with
    | .ok _ => none
    | .error e => some e
  | warn _ => none

end Request

section outcomes

variable (ask : String → Except BundleError Identity) (importer : Path)

/-- The module that a specifier refers to, if it refers to one. -/
def answered (specifier : String) : Identity := (ask specifier).toOption.getD default

/-- What was found when requests were met after the others. -/
def Outcome.after (o : Outcome) (requests : List Request) : Outcome where
  dependencies := o.dependencies ++ Dependencies.fresh o.dependencies
    ((requests.filterMap Request.specifier?).map (answered ask))
  warnings := o.warnings ++ (requests.filterMap Request.count?).map (.malformedRequire importer)

/-- What becomes of requests. The first one that cannot be met decides. -/
def perform (requests : List Request) (o : Outcome) : Except BundleError Outcome :=
  match requests.findSome? (Request.fault? ask importer) with
  | some e => .error e
  | none => .ok (o.after ask importer requests)

theorem Outcome.after_append (o : Outcome) (requests others : List Request) :
    o.after ask importer (requests ++ others) =
      (o.after ask importer requests).after ask importer others := by
  simp [Outcome.after, Dependencies.fresh_append]

theorem perform_nil (o : Outcome) : perform ask importer [] o = .ok o := by
  simp [perform, Outcome.after, Dependencies.fresh]

theorem perform_append (requests others : List Request) (o : Outcome) :
    perform ask importer (requests ++ others) o =
      perform ask importer requests o >>= perform ask importer others := by
  unfold perform
  rw [List.findSome?_append]
  cases requests.findSome? (Request.fault? ask importer) with
  | some e => rfl
  | none =>
    rw [Outcome.after_append]
    rfl

theorem perform_eq_ok {requests : List Request} {o o' : Outcome} :
    perform ask importer requests o = .ok o' ↔
      (∀ request ∈ requests, request.fault? ask importer = none) ∧
        o.after ask importer requests = o' := by
  rw [← List.findSome?_eq_none_iff]
  unfold perform
  cases requests.findSome? (Request.fault? ask importer) <;> simp

theorem perform_refer (specifier : String) (o : Outcome) :
    perform ask importer [.refer specifier] o = (ask specifier).map o.refer := by
  unfold perform
  cases found : ask specifier with
  | error e => simp [Request.fault?, found, Except.map]
  | ok identity =>
    have recorded : o.dependencies ++ Dependencies.fresh o.dependencies [identity] =
        (o.refer identity).dependencies := by
      rw [Dependencies.fresh_cons, Outcome.refer]
      split_ifs <;> simp_all [Dependencies.fresh]
    have warnings : (o.refer identity).warnings = o.warnings := by
      unfold Outcome.refer
      split_ifs <;> rfl
    simp [Request.fault?, Request.specifier?, Request.count?, Outcome.after, answered, found,
      List.filterMap_cons, Except.map, Except.toOption, recorded, ← warnings]

theorem perform_warn (count : Nat) (o : Outcome) :
    perform ask importer [.warn count] o = .ok (o.warn (.malformedRequire importer count)) := by
  simp [perform, Request.fault?, Request.specifier?, Request.count?, Outcome.after,
    List.filterMap_cons, Dependencies.fresh, Outcome.warn]

end outcomes

variable {α β : Type}

theorem runFrom_bind (r : Rewrite α) (next : α → Rewrite β) (o : Outcome) (s : Session) :
    ((r >>= next).run o).runFrom s = match (r.run o).runFrom s with
      | (.ok (a, o'), s') => ((next a).run o').runFrom s'
      | (.error e, s') => (.error e, s') := by
  rw [StateT.run_bind, Work.runFrom_bind]
  cases (r.run o).runFrom s with
  | mk ended s' => cases ended <;> rfl

/-- A step that makes requests and gives a value if they are met. -/
structure Performs (disk : Disk) (importer : Path) (ask : String → Except BundleError Identity)
    (r : Rewrite α) (requests : List Request) (a : α) : Prop where
  result : ∀ (o : Outcome) (s : Session), s.memo.answer disk importer = ask →
    ((r.run o).runFrom s).1 = (perform ask importer requests o).map (a, ·)
  memo : ∀ (o : Outcome) (s : Session), s.memo.answer disk importer = ask →
    s.memo.Learns disk importer (requests.filterMap Request.specifier?)
      ((r.run o).runFrom s).2.memo

namespace Performs

variable {disk : Disk} {importer : Path} {ask : String → Except BundleError Identity}
  {r : Rewrite α} {next : α → Rewrite β} {a : α} {b : β} {requests others : List Request}

theorem pure (a : α) : Performs disk importer ask (pure a) [] a :=
  ⟨fun o _ _ => by rw [perform_nil]; rfl, fun _ s _ => .refl _ s.memo⟩

theorem refuse (construct : String) (others : List Request) (a : α) :
    Performs disk importer ask (throw (.unsupportedSyntax importer construct))
      (.refuse construct :: others) a :=
  ⟨fun _ _ _ => rfl, fun _ s _ => .refl _ s.memo⟩

theorem report (level : Level) (text : String) :
    Performs disk importer ask (report level text) [] () :=
  ⟨fun o _ _ => by rw [perform_nil]; rfl, fun _ s _ => .refl _ s.memo⟩

theorem bind (first : Performs disk importer ask r requests a)
    (second : Performs disk importer ask (next a) others b) :
    Performs disk importer ask (r >>= next) (requests ++ others) b := by
  constructor
  · intro o s answers
    have result := first.result o s answers
    have memo := first.memo o s answers
    rw [runFrom_bind, perform_append]
    cases run : (r.run o).runFrom s with
    | mk ended s' =>
      rw [run] at result memo
      dsimp only at result memo
      cases met : perform ask importer requests o with
      | error e =>
        rw [result, met]
        rfl
      | ok o' =>
        rw [result, met]
        exact second.result o' s' (memo.answer.trans answers)
  · intro o s answers
    have result := first.result o s answers
    have memo := first.memo o s answers
    rw [runFrom_bind, List.filterMap_append]
    cases run : (r.run o).runFrom s with
    | mk ended s' =>
      rw [run] at result memo
      dsimp only at result memo
      cases met : perform ask importer requests o with
      | error e =>
        rw [result, met]
        exact memo.append _
      | ok o' =>
        rw [result, met]
        exact memo.trans (second.memo o' s' (memo.answer.trans answers))

theorem map (f : α → β) (first : Performs disk importer ask r requests a) :
    Performs disk importer ask (do return f (← r)) requests (f a) := by
  rw [← List.append_nil requests]
  exact first.bind (.pure (f a))

theorem reporting {level : Level} {text : String} (next : Performs disk importer ask r requests a) :
    Performs disk importer ask (do Rewriting.report level text; r) requests a :=
  (report level text).bind next

theorem reportingAll {names : List String} {level : Level} {text : String → String}
    (next : Performs disk importer ask r requests a) :
    Performs disk importer ask (do names.forM fun name => Rewriting.report level (text name); r)
      requests a := by
  induction names with
  | nil => exact next
  | cons name rest ih =>
    rw [List.forM, bind_assoc]
    exact .reporting ih

theorem warn (count : Nat) : Performs disk importer ask
    (modify (·.warn (.malformedRequire importer count))) [.warn count] () :=
  ⟨fun o _ _ => by rw [perform_warn]; rfl, fun _ s _ => .refl _ s.memo⟩

/-- A step that asks for a module, which what follows records. -/
theorem refer {specifier : String} {next : Identity → Rewrite α} (value : Identity → α)
    (records : ∀ identity o s, ∃ log, ((next identity).run o).runFrom s =
      (.ok (value identity, o.refer identity), { s with log })) :
    Performs disk importer ask (do
      let identity ← Resolution.resolve disk specifier importer
      next identity) [.refer specifier] (value (answered ask specifier)) := by
  have resolves (o : Outcome) (s : Session) :
      ((liftM (Resolution.resolve disk specifier importer) : Rewrite Identity).run o).runFrom s =
        (((Resolution.resolve disk specifier importer).runFrom s).1.map (·, o),
          ((Resolution.resolve disk specifier importer).runFrom s).2) := by
    change (Resolution.resolve disk specifier importer >>= fun identity =>
      (Pure.pure (identity, o) : Work (Identity × Outcome))).runFrom s = _
    rw [Work.runFrom_bind]
    cases (Resolution.resolve disk specifier importer).runFrom s with
    | mk ended s' => cases ended <;> rfl
  constructor
  · intro o s answers
    obtain ⟨result, -⟩ := Resolution.resolve_learns disk importer specifier s
    rw [runFrom_bind, resolves, result, answers, perform_refer]
    cases found : ask specifier with
    | error e => rfl
    | ok identity =>
      obtain ⟨log, run⟩ := records identity o _
      refine (congrArg Prod.fst run).trans ?_
      simp [answered, found, Except.map, Except.toOption]
  · intro o s answers
    obtain ⟨result, learns⟩ := Resolution.resolve_learns disk importer specifier s
    rw [runFrom_bind, resolves, result, answers]
    cases found : ask specifier with
    | error e => exact learns
    | ok identity =>
      obtain ⟨log, run⟩ := records identity o _
      refine (congrArg (fun ended => Memo.Learns disk importer [specifier] s.memo ended.2.memo)
        run).mpr ?_
      exact learns

end Performs

/-- What redirecting asks for when it leaves a node. -/
def nodeRequest? (n : Node) : Option Request :=
  match specifier? n with
  | some specifier => some (.refer specifier)
  | none => (miscount? n).map .warn

/-- What redirecting trees asks for, in the order of a visit. -/
def callRequests (nodes : List Node) : List Request := nodes.filterMap nodeRequest?

section redirecting

theorem nodeRequest?_specifier? (n : Node) :
    (nodeRequest? n).bind Request.specifier? = specifier? n := by
  unfold nodeRequest?
  cases specifier? n with
  | some specifier => rfl
  | none => cases miscount? n <;> rfl

theorem nodeRequest?_count? (n : Node) : (nodeRequest? n).bind Request.count? = miscount? n := by
  unfold nodeRequest?
  cases asks : specifier? n with
  | some specifier => exact (miscount?_eq_none asks).symm
  | none => cases miscount? n <;> rfl

theorem specifiers_callRequests (nodes : List Node) :
    (callRequests nodes).filterMap Request.specifier? = nodes.filterMap specifier? := by
  rw [callRequests, List.filterMap_filterMap]
  exact List.filterMap_congr fun n _ => nodeRequest?_specifier? n

theorem counts_callRequests (nodes : List Node) :
    (callRequests nodes).filterMap Request.count? = nodes.filterMap miscount? := by
  rw [callRequests, List.filterMap_filterMap]
  exact List.filterMap_congr fun n _ => nodeRequest?_count? n

variable {disk : Disk} {importer : Path} {ask : String → Except BundleError Identity}

theorem callRequests_append (nodes others : List Node) :
    callRequests (nodes ++ others) = callRequests nodes ++ callRequests others :=
  List.filterMap_append

theorem nodeRequest?_redirected (target : String → Identity) (kind : Kind) (offset : Nat)
    (parts : List Node) : nodeRequest? (.mk kind offset (redirectedAll target parts)) =
      nodeRequest? (.mk kind offset parts) := by
  rw [nodeRequest?, nodeRequest?, specifier?_redirected, miscount?_redirected]

theorem redirectCall_performs (n : Node) :
    Performs disk importer ask (redirectCall disk importer n) (callRequests [n])
      (redirectedCall (answered ask) n) := by
  unfold redirectCall redirectedCall callRequests nodeRequest? specifier? miscount?
  cases called : requireArguments? n with
  | none => simpa [called] using Performs.pure n
  | some arguments =>
    by_cases sole : arguments.length = 1
    · cases asked : soleSpecifier? arguments with
      | none => simpa [called, sole, asked] using Performs.pure n
      | some specifier =>
        have refers : Performs disk importer ask (refer disk importer specifier) [.refer specifier]
            (answered ask specifier) := .refer id fun identity o s => ⟨s.log, rfl⟩
        simpa [called, sole, asked] using refers.map (dispatchWith _)
    · have counts : Performs disk importer ask (do
          modify (·.warn (.malformedRequire importer arguments.length))
          return n) [.warn arguments.length] n := (Performs.warn arguments.length).map fun _ => n
      simpa [called, sole, soleSpecifier?_eq_none sole] using Performs.reporting counts

/-- Redirecting a tree makes the requests of its calls in the order of a visit. -/
theorem redirects_performs :
    (∀ n, Performs disk importer ask (redirect disk importer n) (callRequests (visited n))
      (redirected (answered ask) n)) ∧
    ∀ ns, Performs disk importer ask (redirectAll disk importer ns) (callRequests (visitedAll ns))
      (redirectedAll (answered ask) ns) := by
  apply redirect.mutual_induct
  case case1 =>
    intro offset body test ihTest ihBody
    have order : callRequests (visited (.mk .doWhile offset [body, test])) =
        callRequests (visited test) ++ callRequests (visited body) := by
      have passing : callRequests [.mk .doWhile offset [body, test]] = [] := rfl
      simp [visited, visitedEach, inVisitOrder, callRequests_append, passing]
    rw [redirect, redirected_mk (by simp), order]
    exact ihTest.bind (ihBody.map fun body' => Node.mk .doWhile offset [body', _])
  case case2 =>
    intro offset base members ihMembers ihBase
    have order : callRequests (visited (.mk .classBody offset (base :: members))) =
        callRequests (visitedAll members) ++ callRequests (visited base) := by
      have passing : callRequests [.mk .classBody offset (base :: members)] = [] := rfl
      simp [visited, visitedAll, visitedEach, inVisitOrder, callRequests_append, passing]
    rw [redirect, redirected_mk (by simp), order]
    exact ihMembers.bind (ihBase.map fun base' => Node.mk .classBody offset (base' :: _))
  case case3 =>
    intro kind offset parts noLoop noClass ih
    rw [redirect.eq_3 _ _ _ _ _ noLoop noClass, redirected, visited, inVisitOrder_eq noLoop noClass,
      callRequests_append]
    have same : callRequests [.mk kind offset parts] =
        callRequests [.mk kind offset (redirectedAll (answered ask) parts)] := by
      rw [callRequests, callRequests, List.filterMap_cons, List.filterMap_cons,
        nodeRequest?_redirected]
    rw [same]
    exact ih.bind (redirectCall_performs _)
  case case4 => exact .pure []
  case case5 =>
    intro n rest ihFirst ihRest
    have order : callRequests (visitedAll (n :: rest)) =
        callRequests (visited n) ++ callRequests (visitedAll rest) := by
      simp [visitedAll, visitedEach, callRequests_append]
    rw [redirectAll, order]
    exact ihFirst.bind (ihRest.map (_ :: ·))

end redirecting

section lowering

variable {disk : Disk} {importer : Path} {ask : String → Except BundleError Identity}

/-- What lowering an item asks for. -/
def itemRequest? (types : List String) (n : Node) : Option Request :=
  match ItemForm.ofNode types n with
  | .error construct => some (.refuse construct)
  | .ok (.importing form) => form.specifier?.map .refer
  | .ok _ => none

/-- Lowering an import asks for its module, records it and gives the statements. -/
theorem lowerImport_performs {form : ImportForm} {specifier : String}
    (needs : form.specifier? = some specifier) :
    Performs disk importer ask (lowerItem disk importer (.importing form)) [.refer specifier]
      (form.statements (answered ask specifier)) := by
  simp only [lowerItem, needs]
  exact .refer form.statements fun identity o s => ⟨_, rfl⟩

theorem lowerItem_performs {types : List String} {n : Node} {form : ItemForm}
    (known : ItemForm.ofNode types n = .ok form) :
    Performs disk importer ask (lowerItem disk importer form) (itemRequest? types n).toList
      (lowered (answered ask) types n) := by
  simp only [itemRequest?, lowered, known]
  cases form with
  | statement n => exact .pure [n]
  | exporting form => exact .reportingAll (.pure form.statements)
  | importing form =>
    cases needs : form.specifier? with
    | none =>
      simp only [lowerItem, ItemForm.statements, needs]
      exact .pure []
    | some specifier =>
      simp only [ItemForm.statements, needs]
      exact lowerImport_performs needs

theorem lowerItems_performs (types : List String) (items : List Node) :
    Performs disk importer ask (lowerItems disk importer types items)
      (items.filterMap (itemRequest? types)) (items.flatMap (lowered (answered ask) types)) := by
  induction items with
  | nil => exact .pure []
  | cons n rest ih =>
    unfold lowerItems
    cases known : ItemForm.ofNode types n with
    | error construct =>
      have refused : itemRequest? types n = some (.refuse construct) := by rw [itemRequest?, known]
      rw [List.filterMap_cons_some refused]
      exact .refuse construct _ _
    | ok form =>
      rw [filterMap_cons_eq]
      exact (lowerItem_performs known).bind (ih.map (_ ++ ·))

/-- The module that linking makes when specifiers refer to given modules. -/
def linkedTo (target : String → Identity) (m : Module) : Module :=
  { m with items := redirectedAll target (m.items.flatMap (lowered target (typeOnlyNames m.items))) }

/-- What linking asks for: first the items, in their order, then the calls in what they become. -/
def linkRequests (target : String → Identity) (m : Module) : List Request :=
  m.items.filterMap (itemRequest? (typeOnlyNames m.items)) ++
    callRequests (visitedAll (m.items.flatMap (lowered target (typeOnlyNames m.items))))

theorem link_performs (m : Module) :
    Performs disk importer ask (link disk importer m) (linkRequests (answered ask) m)
      (linkedTo (answered ask) m) :=
  (lowerItems_performs _ m.items).bind
    ((redirects_performs.2 _).map fun items => { m with items := items })

end lowering

section alone

variable {disk : Disk} {importer : Path}

/-- What a step does that is run by itself, with nothing remembered. -/
theorem Performs.ensures {α : Type} {r : Rewrite α} {requests : List Request} {a : α}
    (performs : Performs disk importer (Memo.empty.answer disk importer) r requests a)
    (steady : Steady disk r) : Ensures disk r fun o a' o' =>
      a' = a ∧ perform (Memo.empty.answer disk importer) importer requests o = .ok o' := by
  refine ⟨steady, fun o a' o' run => ?_⟩
  have result : (r.run o).alone = _ := performs.result o {} rfl
  rw [result] at run
  cases met : perform (Memo.empty.answer disk importer) importer requests o with
  | error e =>
    rw [met] at run
    cases run
  | ok found =>
    rw [met] at run
    cases run
    exact ⟨rfl, rfl⟩

/-- What linking makes and records are the answers of resolution. -/
theorem link_answers (m : Module) : Ensures disk (link disk importer m) fun o l o' =>
    l = linked disk importer m ∧ perform (Memo.empty.answer disk importer) importer
      (linkRequests (target disk importer) m) o = .ok o' :=
  (link_performs m).ensures (Steady.link importer m)

/-- All items of a module that can be linked are supported. -/
theorem link_supported (m : Module) : Ensures disk (link disk importer m) fun _ _ _ =>
    ∀ n ∈ m.items, ∃ form, ItemForm.ofNode (typeOnlyNames m.items) n = .ok form := by
  refine (link_answers m).weaken fun o l o' ⟨_, met⟩ n member => ?_
  cases known : ItemForm.ofNode (typeOnlyNames m.items) n with
  | ok form => exact ⟨form, rfl⟩
  | error construct =>
    have refused : itemRequest? (typeOnlyNames m.items) n = some (.refuse construct) := by
      rw [itemRequest?, known]
    have fault := ((perform_eq_ok _ _).mp met).1 _
      (List.mem_append_left _ (List.mem_filterMap.mpr ⟨n, member, refused⟩))
    cases fault

theorem dependencies_after (ask : String → Except BundleError Identity) (requests : List Request) :
    (Outcome.after ask importer {} requests).dependencies =
      ((requests.filterMap Request.specifier?).map (answered ask)).eraseDups := by
  simp [Outcome.after, Dependencies.fresh]

/-- The modules that were found are answers, each once. -/
theorem recorded_of_perform {ask : String → Except BundleError Identity} {requests : List Request}
    {o : Outcome} (met : perform ask importer requests {} = .ok o) :
    o.dependencies.Nodup ∧ ∀ identity ∈ o.dependencies,
      ∃ specifier, ask specifier = .ok identity := by
  obtain ⟨faultless, rfl⟩ := (perform_eq_ok ask importer).mp met
  rw [dependencies_after]
  refine ⟨nodup_eraseDups _, fun identity recorded => ?_⟩
  obtain ⟨specifier, asked, rfl⟩ := List.mem_map.mp (List.mem_eraseDups.mp recorded)
  obtain ⟨request, member, named⟩ := List.mem_filterMap.mp asked
  cases request with
  | refer _ =>
    cases named
    have fault := faultless _ member
    rw [Request.fault?] at fault
    cases known : ask specifier with
    | error e => simp [known] at fault
    | ok identity => exact ⟨specifier, by simp [known, answered, Except.toOption]⟩
  | refuse | warn => cases named

end alone

end ScriptBundle.Rewriting
