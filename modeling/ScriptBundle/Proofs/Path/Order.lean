import ScriptBundle.Path

/-! The order of paths, in which any two paths can be compared. Kinds of components and names decide
together, so the components have to be in an order without ties. -/
namespace ScriptBundle.Path

namespace Component

variable {a b c : Component}

theorem le_iff : a.le b = true ↔ a.rank < b.rank ∨ a.rank = b.rank ∧ a.text ≤ b.text := by
  simp [Component.le]

theorem le_total (a b : Component) : a.le b = true ∨ b.le a = true := by
  rw [le_iff, le_iff]
  have texts := String.le_total a.text b.text
  grind

theorem le_trans (first : a.le b = true) (second : b.le c = true) : a.le c = true := by
  rw [le_iff] at first second ⊢
  have texts := String.le_trans (a := a.text) (b := b.text) (c := c.text)
  grind

theorem le_antisymm (first : a.le b = true) (second : b.le a = true) : a = b := by
  rw [le_iff] at first second
  have ranks : a.rank = b.rank := by omega
  have texts : a.text = b.text :=
    String.le_antisymm (by simpa [ranks] using first) (by simpa [ranks] using second)
  cases a <;> cases b <;> simp_all [rank, text]

end Component

variable {as bs cs : List Component}

theorem leComponents_total (as bs : List Component) :
    leComponents as bs = true ∨ leComponents bs as = true := by
  fun_induction leComponents as bs with
  | case1 => exact .inl rfl
  | case2 => exact .inr rfl
  | case3 as b bs ih => simpa [leComponents] using ih
  | case4 a as b bs apart =>
    rw [leComponents, if_neg (Ne.symm apart)]
    exact Component.le_total a b

theorem leComponents_trans (first : leComponents as bs = true) (second : leComponents bs cs = true) :
    leComponents as cs = true := by
  induction as generalizing bs cs with
  | nil => rfl
  | cons a as ih =>
    obtain _ | ⟨b, bs⟩ := bs
    · cases first
    obtain _ | ⟨c, cs⟩ := cs
    · cases second
    rw [leComponents] at first second ⊢
    by_cases ab : a = b
    · subst ab
      by_cases bc : a = c
      · simp only [bc, if_true] at first second ⊢
        exact ih first second
      · rwa [if_neg bc] at second ⊢
    · rw [if_neg ab] at first
      by_cases bc : b = c
      · rwa [if_neg (bc ▸ ab), ← bc]
      · rw [if_neg bc] at second
        have apart : a ≠ c := by
          rintro rfl
          exact ab (Component.le_antisymm first second)
        rw [if_neg apart]
        exact Component.le_trans first second

theorem le_total (p q : Path) : (p.le q || q.le p) = true := by
  simpa [le] using leComponents_total p.components q.components

theorem le_trans (p q r : Path) (first : p.le q = true) (second : q.le r = true) : p.le r = true :=
  leComponents_trans first second

end ScriptBundle.Path
