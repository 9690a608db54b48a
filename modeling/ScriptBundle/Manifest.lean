import ScriptBundle.Json.Reader

/-! Package manifests. Of a manifest only the file that it names as its main module counts; it may
be missing or null. A manifest is an object, or a list whose one element stands for that field. -/
namespace ScriptBundle

structure Manifest where
  main : Option String
  deriving DecidableEq, Inhabited, Repr

namespace Manifest

open Json Json.Reader

/-- What messages call a manifest. -/
def description : String := "struct PackageManifest"

/-- Takes a string or null. -/
def main? : Reader (Option String) := do
  match ← peek with
  | some 'n' => skip; word ['u', 'l', 'l']; return none
  | some '"' => skip; some <$> string true
  | _ => failType "a string"

/-- Fails with a cause, but only once the closing character has been looked for. -/
def failClosing {α : Type} (close : Reader Unit) (cause : Cause) : Reader α := do
  close
  fail cause

/-- Takes the end of a list. -/
def closeList : Reader Unit := do
  match ← peek with
  | some ']' => skip
  | some ',' =>
    skip
    if (← peek) = some ']' then failAhead .trailingComma else failAhead .trailingCharacters
  | some _ => failAhead .trailingCharacters
  | none => failAhead .endOfList

/-- Takes the opening quote of the next member's name, or the closing brace. -/
def hasMember (first : Bool) : Reader Bool := do
  match ← peek with
  | some '\x7d' => skip; return false
  | some '"' => if first then skip; return true else failAhead .expectedCommaOrBrace
  | some ',' =>
    if first then failAhead .keyNotString
    else
      skip
      match ← peek with
      | some '"' => skip; return true
      | some '\x7d' => failAhead .trailingComma
      | some _ => failAhead .keyNotString
      | none => failAhead .endOfValue
  | some _ => failAhead (if first then .keyNotString else .expectedCommaOrBrace)
  | none => failAhead .endOfObject

/-- Takes the members behind an opening brace; `found` is the main file seen so far. -/
def members : Nat → Bool → Option (Option String) → Reader Manifest
  | 0, _, found => return ⟨found.join⟩
  | fuel + 1, first, found => do
    if !(← hasMember first) then return ⟨found.join⟩
    let name ← string true
    if name = "main" && found.isSome then
      let _ ← peek
      fail (.duplicateField "main")
    match ← peek with
    | some ':' => skip
    | some _ => failAhead .expectedColon
    | none => failAhead .endOfObject
    if name = "main" then members fuel false (some (← main?))
    else
      skipValue
      members fuel false found

/-- Takes a manifest. -/
def manifest : Reader Manifest := do
  match ← peek with
  | some '[' =>
    skip
    match ← peek with
    | some ']' => failClosing closeList (.wrongLength 0 (description ++ " with 1 element"))
    | some ',' => failAhead .expectedValue
    | some _ =>
      let main ← main?
      closeList
      return ⟨main⟩
    | none => failAhead .endOfList
  | some '\x7b' => skip; members ((← get).length + 1) true none
  | _ => failType description

/-- The manifest that a text writes, with nothing behind it. -/
def ofText (text : String) : Except Mistake Manifest :=
  (do
    let m ← manifest
    match ← peek with
    | none => return m
    | some _ => failAhead .trailingCharacters : Reader Manifest).run' text.toList

end Manifest

end ScriptBundle
