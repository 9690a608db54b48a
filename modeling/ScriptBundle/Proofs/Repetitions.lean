import Mathlib.Data.List.Forall2
import Mathlib.Data.List.Induction
import Mathlib.Data.List.Nodup

/-! Lists that are gone through element by element, and lists without repetitions. Of equal elements
the first one is kept, so what is put behind a list matters only as far as it is not in the list. -/
namespace ScriptBundle

theorem filterMap_cons_eq {α β : Type} (f : α → Option β) (a : α) (as : List α) :
    (a :: as).filterMap f = (f a).toList ++ as.filterMap f := by
  cases found : f a <;> simp [found]

/-- Choosing what to keep and changing it are two steps. -/
theorem filterMap_ite {α β : Type} (p : α → Prop) [DecidablePred p] (f : α → β) (as : List α) :
    (as.filterMap fun a => if p a then some (f a) else none) = (as.filter p).map f := by
  induction as with
  | nil => rfl
  | cons a rest ih =>
    rw [filterMap_cons_eq, ih, List.filter_cons]
    simp only [decide_eq_true_eq]
    split_ifs <;> rfl

theorem findSome?_filterMap {α β γ : Type} (f : α → Option β) (g : β → Option γ) (as : List α) :
    (as.filterMap f).findSome? g = as.findSome? fun a => (f a).bind g := by
  induction as with
  | nil => rfl
  | cons a rest ih =>
    rw [filterMap_cons_eq, List.findSome?_append, ih, List.findSome?_cons]
    cases f a with
    | none => rfl
    | some b => cases found : g b <;> simp [found]

section forall₂

variable {α β γ : Type} {R : α → β → Prop} {as : List α} {bs : List β} (related : List.Forall₂ R as bs)
include related

theorem map_eq_of_forall₂ {f : α → γ} {g : β → γ} (same : ∀ a b, R a b → f a = g b) :
    as.map f = bs.map g := by
  induction related with
  | nil => rfl
  | cons head _ ih => rw [List.map_cons, List.map_cons, same _ _ head, ih]

theorem filterMap_eq_of_forall₂ {f : α → Option γ} {g : β → Option γ}
    (same : ∀ a ∈ as, ∀ b ∈ bs, R a b → f a = g b) : as.filterMap f = bs.filterMap g := by
  induction related with
  | nil => rfl
  | cons head _ ih =>
    rw [filterMap_cons_eq, filterMap_cons_eq, same _ List.mem_cons_self _ List.mem_cons_self head,
      ih fun a first b second => same a (.tail _ first) b (.tail _ second)]

end forall₂

/-- A list is what stands before an element, the element and what stands behind it. -/
theorem exists_split {α : Type} {as : List α} {i : Nat} {a : α} (at_ : as[i]? = some a) :
    ∃ before after, as = before ++ a :: after ∧ as.take i = before ∧
      as.eraseIdx i = before ++ after := by
  obtain ⟨lt, rfl⟩ := List.getElem?_eq_some_iff.mp at_
  refine ⟨as.take i, as.drop (i + 1), ?_, rfl, List.eraseIdx_eq_take_drop_succ as i⟩
  rw [← List.drop_eq_getElem_cons lt, List.take_append_drop]

theorem filterMap_eraseIdx {α β : Type} {f : α → Option β} {as : List α} {i : Nat} {a : α}
    (at_ : as[i]? = some a) (none : f a = none) : (as.eraseIdx i).filterMap f = as.filterMap f := by
  obtain ⟨before, after, rfl, -, erased⟩ := exists_split at_
  rw [erased, List.filterMap_append, List.filterMap_append, List.filterMap_cons_none none]

theorem flatMap_eraseIdx {α β : Type} {f : α → List β} {as : List α} {i : Nat} {a : α}
    (at_ : as[i]? = some a) (none : f a = []) : (as.eraseIdx i).flatMap f = as.flatMap f := by
  obtain ⟨before, after, rfl, -, erased⟩ := exists_split at_
  rw [erased, List.flatMap_append, List.flatMap_append, List.flatMap_cons, none, List.nil_append]

variable {α β : Type} [BEq α] [LawfulBEq α]

theorem nodup_eraseDups (as : List α) : as.eraseDups.Nodup := by
  match as with
  | [] => simp
  | first :: rest =>
    have shorter := List.length_filter_le (fun other => !other == first) rest
    rw [List.eraseDups_cons, List.nodup_cons]
    exact ⟨by simp, nodup_eraseDups _⟩
termination_by as.length

theorem eraseDups_concat (as : List α) (a : α) : (as ++ [a]).eraseDups =
    if a ∈ as then as.eraseDups else as.eraseDups ++ [a] := by
  rw [List.eraseDups_append]
  split_ifs with known <;> simp [List.removeAll, known, List.eraseDups_cons]

theorem eraseDups_of_nodup {as : List α} (unique : as.Nodup) : as.eraseDups = as := by
  induction as using List.reverseRecOn with
  | nil => rfl
  | append_singleton as a ih =>
    rw [← List.concat_eq_append] at unique
    obtain ⟨new, unique⟩ := (List.nodup_concat as a).mp unique
    rw [eraseDups_concat, if_neg new, ih unique]

theorem filter_eraseDups (p : α → Bool) (as : List α) :
    as.eraseDups.filter p = (as.filter p).eraseDups := by
  induction as using List.reverseRecOn with
  | nil => rfl
  | append_singleton as a ih =>
    rw [eraseDups_concat, List.filter_append]
    cases kept : p a with
    | false => split_ifs <;> simp [kept, ih]
    | true =>
      rw [List.filter_singleton, kept, cond_true, eraseDups_concat]
      split_ifs <;> simp_all

/-- What tells elements apart tells their first occurrences apart. -/
theorem eraseDups_map [BEq β] [LawfulBEq β] {f : α → β} {as : List α}
    (apart : ∀ a ∈ as, ∀ b ∈ as, f a = f b → a = b) :
    (as.map f).eraseDups = as.eraseDups.map f := by
  induction as using List.reverseRecOn with
  | nil => rfl
  | append_singleton as a ih =>
    rw [List.forall_mem_append] at apart
    have before := ih fun b member c other => apart.1 b member c (List.mem_append_left _ other)
    have same : f a ∈ as.map f ↔ a ∈ as := by
      rw [List.mem_map]
      constructor
      · rintro ⟨b, member, equal⟩
        rwa [← apart.1 b member a (by simp) equal]
      · exact fun member => ⟨a, member, rfl⟩
    rw [List.map_append, List.map_singleton, eraseDups_concat, eraseDups_concat, before]
    simp only [same]
    split_ifs <;> simp

/-- Among elements that agree in one part, another part tells them apart. -/
theorem eraseDups_map_filter {γ : Type} [BEq β] [LawfulBEq β] [BEq γ] [LawfulBEq γ] {near : α → γ}
    {far : α → β} (apart : ∀ a b, near a = near b → far a = far b → a = b) (as : List α) (c : γ) :
    ((as.filter (near · == c)).map far).eraseDups = (as.eraseDups.filter (near · == c)).map far := by
  rw [filter_eraseDups]
  refine eraseDups_map fun a first b second => apart a b ?_
  have here := beq_iff_eq.mp (List.mem_filter.mp first).2
  have there := beq_iff_eq.mp (List.mem_filter.mp second).2
  exact here.trans there.symm

theorem eraseDups_cons (a : α) (as : List α) :
    (a :: as).eraseDups = a :: as.eraseDups.filter (· != a) := by
  rw [List.eraseDups_cons, filter_eraseDups]
  rfl

section Owners

variable {f : α → List β} {owner : β → α}

/-- Lists that belong to different elements have no element in common. -/
theorem eraseDups_flatMap [BEq β] [LawfulBEq β] (unique : ∀ a, (f a).Nodup)
    (owned : ∀ a, ∀ b ∈ f a, owner b = a) (as : List α) :
    (as.flatMap f).eraseDups = as.eraseDups.flatMap f := by
  induction as using List.reverseRecOn with
  | nil => rfl
  | append_singleton as a ih =>
    have last : (as ++ [a]).flatMap f = as.flatMap f ++ f a := by simp
    rw [last, List.eraseDups_append, ih, eraseDups_concat]
    split_ifs with known
    · have nothing : (f a).removeAll (as.flatMap f) = [] := by
        simp only [List.removeAll, List.filter_eq_nil_iff]
        intro b member
        simpa using ⟨a, known, member⟩
      rw [nothing, List.eraseDups_nil, List.append_nil]
    · have all : (f a).removeAll (as.flatMap f) = f a := by
        simp only [List.removeAll, List.filter_eq_self]
        intro b member
        have new : ∀ a' ∈ as, b ∉ f a' := by
          intro a' member' member''
          exact known (by rwa [← owned a b member, owned a' b member''])
        simpa using new
      rw [all, eraseDups_of_nodup (unique a), List.flatMap_append, List.flatMap_singleton]

/-- What belongs to one of different elements is its list. -/
theorem filter_flatMap_owner (owned : ∀ a, ∀ b ∈ f a, owner b = a) {as : List α}
    (unique : as.Nodup) {a : α} (member : a ∈ as) :
    (as.flatMap f).filter (owner · == a) = f a := by
  obtain ⟨before, after, rfl⟩ := List.append_of_mem member
  have apart (others : List α) (new : a ∉ others) :
      (others.flatMap f).filter (owner · == a) = [] := by
    simp only [List.filter_eq_nil_iff, List.mem_flatMap, beq_iff_eq]
    rintro b ⟨other, member, inside⟩ rfl
    exact new (by rwa [owned other b inside])
  have own : (f a).filter (owner · == a) = f a :=
    List.filter_eq_self.mpr fun b inside => by simpa using owned a b inside
  simp only [List.nodup_middle, List.nodup_cons, List.mem_append, not_or] at unique
  simp [apart before unique.1.1, apart after unique.1.2, own]

end Owners

end ScriptBundle
