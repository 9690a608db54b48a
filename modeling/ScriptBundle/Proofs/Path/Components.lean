import Mathlib.Data.List.Forall2
import ScriptBundle.Path

/-! Pieces and components. A path is cut at its separators and put together again; its components
decide which paths lie above it. -/
namespace ScriptBundle.Path

theorem splitSlash_ne_nil (cs : List Char) : splitSlash cs ≠ [] := by
  cases cs with
  | nil => simp [splitSlash]
  | cons c cs =>
    unfold splitSlash
    split
    · simp
    · split <;> simp

@[simp] theorem splitSlash_slash (cs : List Char) : splitSlash ('/' :: cs) = [] :: splitSlash cs := by
  simp [splitSlash]

example : splitSlash ['a', '/', '/', 'b'] = [['a'], [], ['b']] := by decide +kernel

/-- A separator cuts a text into two texts that are split on their own. -/
theorem splitSlash_append (as bs : List Char) :
    splitSlash (as ++ '/' :: bs) = splitSlash as ++ splitSlash bs := by
  induction as with
  | nil => simp [splitSlash]
  | cons a as ih =>
    by_cases slash : a = '/'
    · simp [slash, ih]
    · cases pieces : splitSlash as with
      | nil => exact absurd pieces (splitSlash_ne_nil as)
      | cons piece rest => simp [splitSlash, slash, ih, pieces]

/-- A character other than the separator is kept in some piece. -/
theorem mem_splitSlash {c : Char} (apart : c ≠ '/') (cs : List Char) :
    (∃ piece ∈ splitSlash cs, c ∈ piece) ↔ c ∈ cs := by
  induction cs with
  | nil => simp [splitSlash]
  | cons a cs ih =>
    by_cases slash : a = '/'
    · subst slash
      simp [ih, apart]
    · cases pieces : splitSlash cs with
      | nil => exact absurd pieces (splitSlash_ne_nil cs)
      | cons piece rest =>
        simp only [pieces, List.mem_cons, or_and_right, exists_or, exists_eq_left] at ih
        simp only [splitSlash, slash, if_false, pieces, List.mem_cons, or_and_right, exists_or,
          exists_eq_left, ← ih, or_assoc]

theorem slash_notMem {piece : List Char} {cs : List Char} (member : piece ∈ splitSlash cs) :
    '/' ∉ piece := by
  induction cs generalizing piece with
  | nil => simp_all [splitSlash]
  | cons a cs ih =>
    by_cases slash : a = '/'
    · subst slash
      simp only [splitSlash_slash, List.mem_cons] at member
      rcases member with rfl | member
      · simp
      · exact ih member
    · cases pieces : splitSlash cs with
      | nil => exact absurd pieces (splitSlash_ne_nil cs)
      | cons first rest =>
        simp only [splitSlash, slash, if_false, pieces, List.mem_cons] at member
        rcases member with rfl | member
        · simpa [Ne.symm slash] using ih (pieces ▸ List.mem_cons_self)
        · exact ih (pieces ▸ List.mem_cons_of_mem _ member)

/-- Pieces that are joined by separators are found again. -/
theorem splitSlash_intercalate {pieces : List (List Char)} (filled : pieces ≠ [])
    (plain : ∀ piece ∈ pieces, '/' ∉ piece) :
    splitSlash (['/'].intercalate pieces) = pieces := by
  have single (piece : List Char) (plain : '/' ∉ piece) : splitSlash piece = [piece] := by
    induction piece with
    | nil => rfl
    | cons c cs ih =>
      simp only [List.mem_cons, not_or] at plain
      simp [splitSlash, Ne.symm plain.1, ih plain.2]
  induction pieces with
  | nil => exact absurd rfl filled
  | cons piece rest ih =>
    have first := single piece (plain piece List.mem_cons_self)
    cases rest with
    | nil => simpa [List.intercalate] using first
    | cons next rest =>
      have last := ih (by simp) fun p member => plain p (List.mem_cons_of_mem _ member)
      have unfolded : ['/'].intercalate (piece :: next :: rest) =
          piece ++ '/' :: ['/'].intercalate (next :: rest) := by
        simp [List.intercalate, List.intersperse]
      rw [unfolded, splitSlash_append, first, last]
      rfl

theorem isAbsolute_iff (p : Path) : p.isAbsolute = true ↔ ∃ rest, p.text.toList = '/' :: rest := by
  cases text : p.text.toList <;> simp [isAbsolute, text]

theorem pieces_of_absolute {p : Path} {rest : List Char} (text : p.text.toList = '/' :: rest) :
    p.pieces = (splitSlash rest).map String.ofList := by
  simp [pieces, text]

theorem pieces_of_relative {p : Path} (relative : p.isAbsolute = false) :
    p.pieces = (splitSlash p.text.toList).map String.ofList := by
  unfold pieces
  split
  · next rest text => simp [isAbsolute, text] at relative
  · rfl

/-- The components after the root. -/
def body (p : Path) : List Component := componentsOf (!p.isAbsolute) p.pieces

theorem components_eq (p : Path) :
    p.components = if p.isAbsolute then .root :: p.body else p.body := by
  cases absolute : p.isAbsolute <;> simp [components, body, absolute]

theorem root_notMem (opens : Bool) (pieces : List String) :
    Component.root ∉ componentsOf opens pieces := by
  induction pieces generalizing opens with
  | nil => simp [componentsOf]
  | cons piece rest ih =>
    have apart : Component.ofPiece? opens piece ≠ some .root := by
      unfold Component.ofPiece?
      split_ifs <;> simp
    simpa [componentsOf, ih, Option.mem_toList] using apart

/-- Components tell absolute paths from others, and what comes after the root. -/
theorem components_inj {p q : Path} :
    p.components = q.components ↔ p.isAbsolute = q.isAbsolute ∧ p.body = q.body := by
  have apart (a b : Path) : Component.root :: a.body ≠ b.body := by
    intro same
    exact root_notMem _ b.pieces (same ▸ List.mem_cons_self)
  rw [components_eq, components_eq]
  cases p.isAbsolute <;> cases q.isAbsolute <;> simp [apart, (apart _ _).symm]

/-- The name of a component as a step on the way; the root and `.` lead nowhere. -/
def Component.step? : Component → Option String
  | .root | .here => none
  | .up => some ".."
  | .name text => some text

/-- The pieces of a path that lead somewhere. -/
def names (p : Path) : List String := p.pieces.filter fun piece => piece ≠ "" && piece ≠ "."

theorem filterMap_componentsOf (opens : Bool) (pieces : List String) :
    (componentsOf opens pieces).filterMap Component.step? =
      pieces.filter fun piece => piece ≠ "" && piece ≠ "." := by
  induction pieces generalizing opens with
  | nil => rfl
  | cons piece rest ih =>
    simp only [componentsOf, List.filterMap_append, ih, List.filter_cons]
    unfold Component.ofPiece?
    split_ifs <;> simp_all [Component.step?]

theorem names_eq (p : Path) : p.names = p.body.filterMap Component.step? :=
  (filterMap_componentsOf _ _).symm

/-- The text of a relative path begins with a piece, unless it is empty. -/
theorem splitSlash_relative {p : Path} (relative : p.isAbsolute = false) (filled : p.text ≠ "") :
    ∃ c piece rest, splitSlash p.text.toList = (c :: piece) :: rest := by
  cases text : p.text.toList with
  | nil => exact absurd (by simpa using text) filled
  | cons c cs =>
    have apart : c ≠ '/' := by
      rintro rfl
      simp [isAbsolute, text] at relative
    cases pieces : splitSlash cs with
    | nil => exact absurd pieces (splitSlash_ne_nil cs)
    | cons piece rest => exact ⟨c, piece, rest, by simp [splitSlash, apart, pieces]⟩

/-- The empty path is the only one without components. -/
theorem text_eq_empty_iff (p : Path) : p.text = "" ↔ p.components = [] := by
  constructor
  · intro empty
    simp [components, isAbsolute, pieces, empty, splitSlash, componentsOf, Component.ofPiece?]
  · intro none
    rw [components_eq] at none
    have relative : p.isAbsolute = false := by
      cases absolute : p.isAbsolute
      · rfl
      · simp [absolute] at none
    by_contra filled
    obtain ⟨c, piece, rest, text⟩ := splitSlash_relative relative filled
    simp [relative, body, pieces_of_relative relative, text, componentsOf,
      Component.ofPiece?] at none
    split_ifs at none <;> cases none.1

theorem componentsOf_append (opens : Bool) (first second : List String) :
    componentsOf opens (first ++ second) =
      componentsOf opens first ++ componentsOf (opens && first.isEmpty) second := by
  induction first generalizing opens with
  | nil => simp [componentsOf]
  | cons piece rest ih => simp [componentsOf, ih]

theorem dropTrailing_suffix (absolute : Bool) (pieces : List String) :
    dropTrailing absolute pieces <:+ pieces := by
  induction pieces with
  | nil => exact List.suffix_refl _
  | cons piece rest ih =>
    unfold dropTrailing
    split
    · exact ih.trans (List.suffix_cons _ _)
    · exact List.suffix_refl _

/-- The pieces that are dropped at the end have no component. -/
theorem componentsOf_dropTrailing (absolute : Bool) (pieces : List String) :
    componentsOf (!absolute) (dropTrailing absolute pieces).reverse =
      componentsOf (!absolute) pieces.reverse := by
  induction pieces with
  | nil => rfl
  | cons piece rest ih =>
    unfold dropTrailing
    split
    next dropped =>
      rw [ih, List.reverse_cons, componentsOf_append]
      simp_all [componentsOf]
    next => rfl

/-- What is not dropped ends with a piece that has a component. -/
theorem dropTrailing_cons {absolute : Bool} {pieces rest : List String} {piece : String}
    (kept : dropTrailing absolute pieces = piece :: rest) :
    ∃ component, Component.ofPiece? (!absolute && rest.isEmpty) piece = some component := by
  induction pieces with
  | nil => simp [dropTrailing] at kept
  | cons first pieces ih =>
    unfold dropTrailing at kept
    split at kept
    next => exact ih kept
    next names =>
      obtain ⟨rfl, rfl⟩ := List.cons.inj kept
      exact Option.ne_none_iff_exists'.mp (by simpa using names)

/-- A path that is put together of pieces has these pieces. -/
theorem pieces_ofPieces {absolute : Bool} {pieces : List String} (filled : pieces ≠ [])
    (plain : ∀ piece ∈ pieces, '/' ∉ piece.toList)
    (opens : absolute = false → pieces.head? ≠ some "") :
    (ofPieces absolute pieces).isAbsolute = absolute ∧
      (ofPieces absolute pieces).pieces = pieces := by
  have found : splitSlash (['/'].intercalate (pieces.map String.toList)) =
      pieces.map String.toList :=
    splitSlash_intercalate (by simpa using filled) (by simpa using plain)
  cases absolute with
  | true =>
    have text : (ofPieces true pieces).text.toList =
        '/' :: ['/'].intercalate (pieces.map String.toList) := by
      simp [ofPieces, String.toList_intercalate]
    exact ⟨(isAbsolute_iff _).mpr ⟨_, text⟩, by simp [pieces_of_absolute text, found]⟩
  | false =>
    have text : (ofPieces false pieces).text.toList =
        ['/'].intercalate (pieces.map String.toList) := by
      simp [ofPieces, String.toList_intercalate]
    have relative : (ofPieces false pieces).isAbsolute = false := by
      by_contra absolute
      obtain ⟨rest, slash⟩ := (isAbsolute_iff _).mp (by simpa using absolute)
      rw [← text, slash, splitSlash_slash] at found
      cases pieces with
      | nil => exact filled rfl
      | cons piece pieces =>
        simp only [List.map_cons, List.cons.injEq] at found
        exact opens rfl (by simpa using found.1.symm)
    exact ⟨relative, by simp [pieces_of_relative relative, text, found]⟩

theorem slash_notMem_pieces {p : Path} {piece : String} (member : piece ∈ p.pieces) :
    '/' ∉ piece.toList := by
  unfold pieces at member
  split at member <;>
    · obtain ⟨chars, inside, rfl⟩ := List.mem_map.mp member
      simpa using slash_notMem inside

/-- A relative path begins with a piece, unless it is empty. -/
theorem head?_pieces {p : Path} (relative : p.isAbsolute = false) (filled : p.text ≠ "") :
    p.pieces.head? ≠ some "" := by
  rw [pieces_of_relative relative]
  obtain ⟨c, piece, rest, text⟩ := splitSlash_relative relative filled
  simp [text]

/-- The leading pieces of a path make a path of the same kind with the leading components. -/
theorem body_ofPieces {p : Path} {pieces : List String} (front : pieces <+: p.pieces) :
    (ofPieces p.isAbsolute pieces).isAbsolute = p.isAbsolute ∧
      (ofPieces p.isAbsolute pieces).body = componentsOf (!p.isAbsolute) pieces := by
  cases pieces with
  | nil =>
    cases p.isAbsolute <;>
      simp [ofPieces, body, isAbsolute, ScriptBundle.Path.pieces, splitSlash, componentsOf,
        Component.ofPiece?]
  | cons piece rest =>
    by_cases empty : p.text = ""
    · obtain ⟨rfl, rfl⟩ : piece = "" ∧ rest = [] := by
        simpa [ScriptBundle.Path.pieces, empty, splitSlash] using front
      simp [isAbsolute, empty, ofPieces, body, ScriptBundle.Path.pieces, splitSlash, componentsOf,
        Component.ofPiece?]
    · have opens (relative : p.isAbsolute = false) : (piece :: rest).head? ≠ some "" := by
        obtain ⟨tail, pieces⟩ := front
        simpa [← pieces] using head?_pieces relative empty
      obtain ⟨kind, pieces⟩ := pieces_ofPieces (List.cons_ne_nil piece rest)
        (fun _ member => slash_notMem_pieces (front.subset member)) opens
      exact ⟨kind, by simp [body, kind, pieces]⟩

/-- A parent lacks the last component, and a path without a parent has no component to lack. -/
theorem parent?_cases (p : Path) :
    (p.parent? = none ∧ p.body = []) ∨
      ∃ above last, p.parent? = some above ∧ above.isAbsolute = p.isAbsolute ∧
        p.body = above.body ++ [last] := by
  have all : p.body = componentsOf (!p.isAbsolute)
      (dropTrailing p.isAbsolute p.pieces.reverse).reverse := by
    rw [componentsOf_dropTrailing, List.reverse_reverse, body]
  have front : (dropTrailing p.isAbsolute p.pieces.reverse).reverse <+: p.pieces := by
    rw [← List.reverse_reverse p.pieces, List.reverse_prefix, List.reverse_reverse]
    exact dropTrailing_suffix _ _
  unfold parent?
  cases kept : dropTrailing p.isAbsolute p.pieces.reverse with
  | nil => exact .inl ⟨rfl, by simp [all, kept, componentsOf]⟩
  | cons piece rest =>
    obtain ⟨last, named⟩ := dropTrailing_cons kept
    have above : (dropTrailing p.isAbsolute rest).reverse <+: p.pieces := by
      have shorter : (dropTrailing p.isAbsolute rest).reverse <+: rest.reverse :=
        List.reverse_prefix.mpr (dropTrailing_suffix _ _)
      rw [kept, List.reverse_cons] at front
      exact (shorter.trans (List.prefix_append _ _)).trans front
    obtain ⟨kind, body⟩ := body_ofPieces above
    refine .inr ⟨_, last, rfl, kind, ?_⟩
    rw [body, componentsOf_dropTrailing, all, kept, List.reverse_cons, componentsOf_append]
    simp [componentsOf, named]

theorem body_length_le (p : Path) : p.body.length ≤ p.pieces.length := by
  suffices bound : ∀ opens pieces, (componentsOf opens pieces).length ≤ pieces.length from bound _ _
  intro opens pieces
  induction pieces generalizing opens with
  | nil => simp [componentsOf]
  | cons piece rest ih =>
    have := ih false
    cases first : Component.ofPiece? opens piece <;> simp [componentsOf, first] <;> omega

/-- Paths with the same components have ancestors with the same components. -/
theorem ancestorsUpTo_sameComponents {m n : Nat} {p q : Path}
    (same : p.components = q.components) (enough : p.body.length < m)
    (enough' : q.body.length < n) :
    List.Forall₂ (fun a b => a.components = b.components) (ancestorsUpTo m p)
      (ancestorsUpTo n q) := by
  induction m generalizing n p q with
  | zero => omega
  | succ m ih =>
    cases n with
    | zero => omega
    | succ n =>
      obtain ⟨kind, bodies⟩ := components_inj.mp same
      unfold ancestorsUpTo
      refine .cons same ?_
      rcases parent?_cases p with ⟨top, none⟩ | ⟨above, last, parent, absolute, body⟩ <;>
        rcases parent?_cases q with ⟨top', none'⟩ | ⟨above', last', parent', absolute', body'⟩
      · simp [top, top']
      · simp [← bodies, none] at body'
      · simp [bodies, none'] at body
      · rw [body, body'] at bodies
        obtain ⟨upper, -⟩ := List.append_inj' bodies rfl
        simp only [parent, parent']
        apply ih (components_inj.mpr ⟨by rw [absolute, absolute', kind], upper⟩)
        · simp [body] at enough
          omega
        · simp [body'] at enough'
          omega

theorem ancestors_sameComponents {p q : Path} (same : p.components = q.components) :
    List.Forall₂ (fun a b => a.components = b.components) p.ancestors q.ancestors :=
  ancestorsUpTo_sameComponents same (Nat.lt_succ_of_le p.body_length_le)
    (Nat.lt_succ_of_le q.body_length_le)

end ScriptBundle.Path
