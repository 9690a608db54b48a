import ScriptBundle.Assembly
import ScriptBundle.Proofs.Literal.Spelling
import ScriptBundle.Script.Printer

/-! The registry keeps a module under a key in the data notation; the call that stands for what the
module exports names it by a literal as scripts spell it. Both denote the path of the module, unless
the path holds a backslash that the script does not escape. -/
namespace ScriptBundle.Script

/-- What is written behind a text follows it in its line. -/
theorem Document.Page.write_write (page : Page) (level : Nat) {first : String} (visible : first ≠ "")
    (second : String) :
    (page.write level first).write level second = page.write level (first ++ second) := by
  have wide : (first ++ second).isEmpty = false := by simp [visible]
  by_cases empty : second.isEmpty
  · obtain rfl := String.isEmpty_iff.mp empty
    simp [Page.write]
  · simp only [Page.write, empty, wide, Bool.eq_false_iff.mpr (mt String.isEmpty_iff.mp visible)]
    by_cases fresh : page.isLineEmpty <;> simp [fresh, String.append_assoc]

namespace Literal

open Rewriting (dispatcher dispatch)

/-- A call that links to a module is printed in one piece, wherever it stands. -/
theorem dispatch_writeTo (style : Style) (identity : Identity) (level : Nat) (page : Document.Page) :
    ((dispatch identity).print style).writeTo style.isCompact level page =
      page.write (if style.isCompact then 0 else level)
        (dispatcher ++ "(" ++ Spelling.string style.edition identity.text ++ ")") := by
  have printed : (dispatch identity).print style =
      .append (.append (.text dispatcher) .nil)
        (.append (.append (.text "(") (.text (Spelling.string style.edition identity.text)))
          (.text ")")) := rfl
  rw [printed]
  simp only [Document.writeTo]
  rw [Document.Page.write_write page _ (by decide), Document.Page.write_write page _ (by simp),
    Document.Page.write_write page _ (by simp)]

theorem value?_key (identity : Identity) :
    value? (Assembly.key identity) = some (units identity.text.toList) :=
  value?_quoted identity.text

theorem value?_key_inj {m n : Identity} :
    value? (Assembly.key m) = value? (Assembly.key n) ↔ m = n := by
  obtain ⟨first⟩ := m
  obtain ⟨second⟩ := n
  rw [value?_key, value?_key, Option.some_inj, Path.mk.injEq, ← String.toList_inj]
  exact ⟨units_injective, congrArg units⟩

/-- A module is asked for by the key under which it is kept just if its path has no backslash before
the digits of half a surrogate pair; no other module has that key. -/
theorem dispatch_meets_key (style : Style) (identity : Identity) :
    (∀ level page, ((dispatch identity).print style).writeTo style.isCompact level page =
      page.write (if style.isCompact then 0 else level)
        (dispatcher ++ "(" ++ Spelling.string style.edition identity.text ++ ")")) ∧
    value? (Assembly.key identity) = some (units identity.text.toList) ∧
    (∀ other, value? (Assembly.key other) = value? (Assembly.key identity) ↔ other = identity) ∧
    (value? (Spelling.string style.edition identity.text) = value? (Assembly.key identity) ↔
      escapesSurrogate identity.text.toList = false) := by
  refine ⟨dispatch_writeTo style identity, value?_key identity, fun other => value?_key_inj, ?_⟩
  rw [value?_key]
  exact value?_string style.edition identity.text

/-- The call names the half of a pair that the path spells, and the key the path itself. -/
theorem dispatch_misses_key :
    value? (Spelling.string .es2022 "/\\ud83d.ts") = some [0x2F, 0xD83D, 0x2E, 0x74, 0x73] ∧
      value? (Assembly.key ⟨"/\\ud83d.ts"⟩) =
        some [0x2F, 0x5C, 0x75, 0x64, 0x38, 0x33, 0x64, 0x2E, 0x74, 0x73] := by
  have spelt : Spelling.string .es2022 "/\\ud83d.ts" = "\"/\\ud83d.ts\"" := by decide
  have half : escape? ['u', 'd', '8', '3', 'd', '.', 't', 's', '"'] =
      some ([0xD83D], ['.', 't', 's', '"']) := by decide
  constructor
  · rw [spelt]
    simp [value?, body?_plain, body?_escape half, body?_closing, unitsOfCode]
  · rw [value?_key]
    decide

end Literal

end ScriptBundle.Script
