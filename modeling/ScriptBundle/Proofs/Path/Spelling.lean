import ScriptBundle.Proofs.Path.Components

/-! Spellings of one directory. Directories with the same components may be written differently, and
so may all that is reached through them; such paths are alike, and stay alike whatever is put behind
them. -/
namespace ScriptBundle.Path

/-- The text of a directory as it stands before a further name. -/
def lead (p : Path) : String :=
  if p.text = "" ∨ p.text.toList.getLast? = some '/' then p.text else p.text ++ "/"

theorem join_eq (base : Path) (written : String) : base.join written =
    if (Path.mk written).isAbsolute then ⟨written⟩ else ⟨base.lead ++ written⟩ := by
  unfold join lead
  split_ifs <;> rfl

theorem lead_empty : lead ⟨""⟩ = "" := by simp [lead]

theorem lead_lead (p : Path) : lead ⟨p.lead⟩ = p.lead := by
  unfold lead
  split_ifs <;> simp_all

/-- What precedes a text does not decide whether a separator is missing behind it. -/
theorem lead_append (p : Path) (rest : String) : lead ⟨p.lead ++ rest⟩ = p.lead ++ lead ⟨rest⟩ := by
  by_cases empty : rest = ""
  · simp [empty, lead_lead, lead_empty]
  · have last : (p.lead ++ rest).toList.getLast? = rest.toList.getLast? := by
      rw [String.toList_append, List.getLast?_append]
      cases rest' : rest.toList.getLast? with
      | none => simp_all
      | some c => rfl
    unfold lead at last ⊢
    simp only [last, String.append_eq_empty_iff, empty, and_false, false_or]
    split_ifs <;> simp [String.append_assoc]

theorem lead_eq_empty_iff (p : Path) : p.lead = "" ↔ p.text = "" := by
  unfold lead
  split_ifs <;> simp_all

theorem isAbsolute_lead {p : Path} (filled : p.text ≠ "") (rest : String) :
    (Path.mk (p.lead ++ rest)).isAbsolute = p.isAbsolute := by
  unfold isAbsolute lead
  cases text : p.text.toList with
  | nil => exact absurd (by simpa using text) filled
  | cons c cs => split_ifs <;> simp [text]

theorem toList_lead {p : Path} (filled : p.text ≠ "") : ∃ stem,
    p.lead.toList = stem ++ ['/'] ∧ (p.text.toList = stem ∨ p.text.toList = stem ++ ['/']) := by
  unfold lead
  split_ifs with ends
  · have last := ends.resolve_left filled
    obtain ⟨stem, text⟩ := List.getLast?_eq_some_iff.mp last
    exact ⟨stem, text, .inr text⟩
  · exact ⟨p.text.toList, by simp, .inl rfl⟩

/-- Behind a directory follow the pieces of a text, and before them nothing but its own pieces. -/
theorem pieces_lead {p : Path} (filled : p.text ≠ "") (rest : String) :
    ∃ front, (Path.mk (p.lead ++ rest)).pieces =
        front ++ (splitSlash rest.toList).map String.ofList ∧
      front.filter (· ≠ "") = p.pieces.filter (· ≠ "") := by
  obtain ⟨stem, lead, text⟩ := toList_lead filled
  have whole : (Path.mk (p.lead ++ rest)).text.toList = stem ++ '/' :: rest.toList := by
    simp [lead]
  cases stem with
  | nil =>
    -- An empty stem can only be that of the root.
    have root : p.text.toList = ['/'] := text.resolve_left (by simpa using filled)
    exact ⟨[], by simp [pieces_of_absolute whole],
      by simp [pieces_of_absolute root, splitSlash]⟩
  | cons c cs =>
    by_cases slash : c = '/'
    · subst slash
      refine ⟨(splitSlash cs).map String.ofList, ?_, ?_⟩
      · simp [pieces_of_absolute whole, splitSlash_append]
      · rcases text with text | text <;>
          simp [pieces_of_absolute text, splitSlash_append, splitSlash]
    · have relative {q : Path} {tail : List Char} (text : q.text.toList = c :: tail) :
          q.isAbsolute = false := by
        simp [isAbsolute, text, slash]
      refine ⟨(splitSlash (c :: cs)).map String.ofList, ?_, ?_⟩
      · rw [pieces_of_relative (relative whole), whole, splitSlash_append, List.map_append]
      · rcases text with text | text
        · rw [pieces_of_relative (relative text), text]
        · rw [pieces_of_relative (relative text), text, splitSlash_append]
          simp [splitSlash]

theorem mem_pieces {c : Char} (apart : c ≠ '/') (p : Path) :
    (∃ piece ∈ p.pieces, c ∈ piece.toList) ↔ c ∈ p.text.toList := by
  cases absolute : p.isAbsolute with
  | false => simpa [pieces_of_relative absolute] using mem_splitSlash apart p.text.toList
  | true =>
    obtain ⟨rest, text⟩ := p.isAbsolute_iff.mp absolute
    simpa [pieces_of_absolute text, text, apart] using mem_splitSlash apart rest

/-- Characters that do not serve for steering stand in names or nowhere. -/
theorem mem_names {c : Char} (slash : c ≠ '/') (dot : c ≠ '.') (p : Path) :
    (∃ name ∈ p.names, c ∈ name.toList) ↔ c ∈ p.text.toList := by
  rw [← mem_pieces slash]
  constructor
  · rintro ⟨name, member, inside⟩
    exact ⟨name, List.mem_of_mem_filter member, inside⟩
  · rintro ⟨piece, member, inside⟩
    refine ⟨piece, List.mem_filter.mpr ⟨member, ?_⟩, inside⟩
    have filled : piece ≠ "" := by rintro rfl; simp at inside
    have other : piece ≠ "." := by rintro rfl; simp [dot] at inside
    simp [filled, other]

theorem mem_lead {p : Path} (filled : p.text ≠ "") {c : Char} (apart : c ≠ '/') :
    c ∈ p.lead.toList ↔ c ∈ p.text.toList := by
  obtain ⟨stem, lead, text⟩ := toList_lead filled
  rcases text with text | text <;> simp [lead, text, apart]

/-- Paths that differ at most in how a directory on the way is written. -/
inductive Alike : Path → Path → Prop
  | behind {d e : Path} (same : d.components = e.components) (rest : String) :
      Alike ⟨d.lead ++ rest⟩ ⟨e.lead ++ rest⟩

namespace Alike

theorem refl (p : Path) : Alike p p := by
  have := behind (d := ⟨""⟩) rfl p.text
  simpa [lead_empty] using this

/-- A name behind directories with the same components. -/
theorem join_same {d e : Path} (same : d.components = e.components) (written : String) :
    Alike (d.join written) (e.join written) := by
  rw [join_eq, join_eq]
  split
  · exact refl _
  · exact behind same written

theorem join {p q : Path} (alike : Alike p q) (written : String) :
    Alike (p.join written) (q.join written) := by
  obtain ⟨same, rest⟩ := alike
  rw [join_eq, join_eq]
  split
  · exact refl _
  · rw [lead_append, lead_append, String.append_assoc, String.append_assoc]
    exact behind same _

theorem withSuffix {p q : Path} (alike : Alike p q) (suffix : String) :
    Alike (p.withSuffix suffix) (q.withSuffix suffix) := by
  obtain ⟨same, rest⟩ := alike
  unfold Path.withSuffix
  rw [String.append_assoc, String.append_assoc]
  exact behind same _

end Alike

end ScriptBundle.Path
