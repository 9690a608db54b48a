import ScriptBundle.Proofs.Resolution.Memo

/-! What a memo adds to a search. A specifier that is remembered has the answer that was found once,
even if a search would not find it any more; any other one has the answer of a search. Resolving a
specifier changes no answer, and nothing but what was asked for is remembered afterwards. -/
namespace ScriptBundle

namespace Memo

variable {disk : Disk} {importer : Path}

/-- The answer for a specifier when something may be remembered. -/
def answer (memo : Memo) (disk : Disk) (importer : Path) (specifier : String) :
    Except BundleError Identity :=
  match memo.get? (Resolution.directoryOf importer) specifier with
  | some identity => .ok identity
  | none => Resolution.answer disk specifier importer

theorem Truthful.answer_eq {memo : Memo} (truthful : memo.Truthful disk) (specifier : String) :
    memo.answer disk importer specifier = Resolution.answer disk specifier importer := by
  unfold answer
  split
  next identity known =>
    have found := truthful _ _ _ known
    rw [Resolution.answer, found]
  next => rfl

theorem answer_insert {memo : Memo} {specifier : String} {identity : Identity}
    (found : memo.answer disk importer specifier = .ok identity) :
    (memo.insert (Resolution.directoryOf importer) specifier identity).answer disk importer =
      memo.answer disk importer := by
  funext other
  by_cases same : other = specifier
  · rw [same, found, answer, get?_insert, if_pos ⟨rfl, rfl⟩]
  · rw [answer, get?_insert, if_neg fun both => same both.2, answer]

/-- Whether a memo becomes another one that answers everything in the same way and remembers nothing
new but some specifiers. -/
structure Learns (disk : Disk) (importer : Path) (specifiers : List String) (memo memo' : Memo) :
    Prop where
  answer : memo'.answer disk importer = memo.answer disk importer
  others : ∀ directory specifier, specifier ∉ specifiers →
    memo'.get? directory specifier = memo.get? directory specifier

namespace Learns

variable {specifiers others : List String} {memo memo' memo'' : Memo}

theorem refl (specifiers : List String) (memo : Memo) :
    Learns disk importer specifiers memo memo :=
  ⟨rfl, fun _ _ _ => rfl⟩

theorem trans (early : Learns disk importer specifiers memo memo')
    (late : Learns disk importer others memo' memo'') :
    Learns disk importer (specifiers ++ others) memo memo'' := by
  refine ⟨late.answer.trans early.answer, fun directory specifier new => ?_⟩
  rw [List.mem_append, not_or] at new
  exact (late.others directory specifier new.2).trans (early.others directory specifier new.1)

theorem append (early : Learns disk importer specifiers memo memo') (others : List String) :
    Learns disk importer (specifiers ++ others) memo memo' :=
  early.trans (.refl others memo')

end Learns

end Memo

/-- Resolving a specifier gives its answer, and no other specifier is remembered. -/
theorem Resolution.resolve_learns (disk : Disk) (importer : Path) (specifier : String) (s : Session) :
    ((resolve disk specifier importer).runFrom s).1 = s.memo.answer disk importer specifier ∧
      s.memo.Learns disk importer [specifier]
        ((resolve disk specifier importer).runFrom s).2.memo := by
  cases known : s.memo.get? (directoryOf importer) specifier with
  | some identity =>
    obtain ⟨log, run, -⟩ := resolve_remembered disk known
    rw [run, Memo.answer, known]
    exact ⟨rfl, .refl _ _⟩
  | none =>
    obtain ⟨log, run, -⟩ := resolve_searched disk known
    have searched : s.memo.answer disk importer specifier = answer disk specifier importer := by
      rw [Memo.answer, known]
    rw [run, searched]
    refine ⟨rfl, ?_⟩
    cases found : find? disk (directoryOf importer) specifier with
    | none => exact .refl _ _
    | some identity =>
      refine ⟨Memo.answer_insert (searched.trans ?_), fun directory other apart => ?_⟩
      · rw [answer, found]
      · rw [Memo.get?_insert, if_neg fun both => apart (List.mem_singleton.mpr both.2)]

end ScriptBundle
