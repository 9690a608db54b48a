/-! Classes of characters given by the code points at which membership changes. -/
namespace ScriptBundle.Text

/-- How many of the first `high` entries of a sorted table are at most `value`, when at least
`low` of them are; each step halves what is left. -/
def countUpTo (table : Array Nat) (value : Nat) : Nat → Nat → Nat → Nat
  | 0, low, _ => low
  | fuel + 1, low, high =>
    if low < high then
      let middle := (low + high) / 2
      if table[middle]?.getD 0 ≤ value then countUpTo table value fuel (middle + 1) high
      else countUpTo table value fuel low middle
    else low

/-- A character is in the class when an odd number of changes lie at or before it. -/
def inRanges (table : Array Nat) (c : Char) : Bool :=
  countUpTo table c.toNat 64 0 table.size % 2 == 1

end ScriptBundle.Text
