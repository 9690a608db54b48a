import Mathlib.Data.List.Chain
import ScriptBundle.Proofs.Assembly

/-! The layout of a program. Around the texts of modules, which are put in as they are, stand lines that
the assembler writes; these begin where a line begins, whatever the texts are, and only they are
indented. -/
namespace ScriptBundle.Assembly

variable {instantiation : Instantiation} {isCompact : Bool} {entrySource : String}
  {records : List Record} {first second : String} {pieces : List Piece}

/-- The lines before the registry. -/
def prologue : List Piece :=
  [.line 0 ("const " ++ Rewriting.dispatcher ++ " = (() => \x7b"), .line 1 "const registry = \x7b"]

/-- The lines before the text of a module. -/
def opening (instantiation : Instantiation) (identity : Identity) : List Piece :=
  match instantiation with
  | .cached => [.line 2 (key identity ++ ": (" ++ Rewriting.moduleObject ++ ") => \x7b")]
  | .perDispatch => [.line 2 (key identity ++ ": () => \x7b"), .line 3 makeModule]

/-- The lines behind the text of a module. -/
def closing : Instantiation → List Piece
  | .cached => [.line 2 "\x7d,"]
  | .perDispatch => [.line 3 returnExports, .line 2 "\x7d,"]

/-- The lines between the registry and the text of the entry. -/
def runtime (instantiation : Instantiation) : List Piece :=
  [.line 1 "\x7d;"] ++ dispatch instantiation ++ [.line 0 "\x7d)();"]

/-- The text of a record, if it was visited. -/
def textOf (record : Record) : String := record.source.getD ""

/-- The pieces of a program with some records. -/
def layout (instantiation : Instantiation) (entrySource : String) (records : List Record) :
    List Piece :=
  program instantiation entrySource (records.map fun r => (r.identity, textOf r))

theorem initializer_eq (identity : Identity) (source : String) :
    initializer instantiation identity source =
      opening instantiation identity ++ .verbatim source :: closing instantiation := by
  cases instantiation <;> rfl

theorem layout_eq : layout instantiation entrySource records = prologue ++
    (records.flatMap fun r =>
      opening instantiation r.identity ++ .verbatim (textOf r) :: closing instantiation) ++
    runtime instantiation ++ [.verbatim entrySource] := by
  simp only [layout, program, List.flatMap_map, initializer_eq, prologue, runtime, List.append_assoc]
  rfl

/-- The texts that are needed are those of all records, or the first one that is missing is named. -/
theorem finished_eq (records : List Record) : finished records =
    match records.find? (!·.isVisited) with
    | some record => .error (.incompleteDependency record.identity)
    | none => .ok (records.map fun r => (r.identity, textOf r)) := by
  induction records with
  | nil => rfl
  | cons record rest ih =>
    obtain ⟨identity, _ | source⟩ := record
    · rfl
    · rw [finished, ih, List.find?_cons_of_neg (by simp [Record.isVisited])]
      cases rest.find? (!·.isVisited) <;> rfl

@[simp] theorem render_append (isCompact : Bool) (pieces others : List Piece) :
    render isCompact (pieces ++ others) = render isCompact pieces ++ render isCompact others := by
  simp [render]

@[simp] theorem render_verbatim (isCompact : Bool) (text : String) (pieces : List Piece) :
    render isCompact (.verbatim text :: pieces) = endLine text ++ render isCompact pieces := by
  simp [render, Piece.render]

/-- Whether a text is made of whole lines, so that what follows begins a line. -/
def IsWhole (text : String) : Prop := text = "" ∨ text.toList.getLast? = some '\n'

theorem IsWhole.append (whole : IsWhole first) (whole' : IsWhole second) :
    IsWhole (first ++ second) := by
  obtain rfl | ends := whole'
  · rwa [String.append_empty]
  · exact .inr (by rw [String.toList_append, List.getLast?_append, ends, Option.some_or])

theorem isWhole_endLine (text : String) : IsWhole (endLine text) := by
  rw [endLine]
  split
  next ended => simpa [IsWhole] using ended
  next => exact .inr (by simp)

theorem isWhole_render_piece (isCompact : Bool) (piece : Piece) : IsWhole (piece.render isCompact) := by
  cases piece with
  | line depth text => exact .inr (by simp [Piece.render])
  | verbatim text => exact isWhole_endLine text

/-- Whatever stands before a piece, the piece begins a line. -/
theorem isWhole_render (isCompact : Bool) (pieces : List Piece) : IsWhole (render isCompact pieces) := by
  induction pieces with
  | nil => exact .inl rfl
  | cons piece rest ih =>
    have split : render isCompact (piece :: rest) = piece.render isCompact ++ render isCompact rest := by
      simp [render]
    rw [split]
    exact (isWhole_render_piece isCompact piece).append ih

/-- Whether a piece is one line if the assembler writes it. -/
def Piece.isSingle : Piece → Bool
  | .line _ text => '\n' ∉ text.toList
  | .verbatim _ => true

theorem newline_notMem_quotedChar (c : Char) : '\n' ∉ Json.quotedChar c := by
  have digits (n : Nat) : '\n' ≠ Json.hexDigit n := by
    have all : ∀ k < 16, '\n' ≠ Nat.digitChar k := by decide
    exact all (n % 16) (Nat.mod_lt n (by decide))
  unfold Json.quotedChar
  split
  all_goals try decide
  split
  · simp [digits]
  · simp_all [eq_comm]

/-- A key is written in its line, whatever the path is. -/
theorem newline_notMem_key (identity : Identity) : '\n' ∉ (key identity).toList := by
  simp [key, Json.quoted, newline_notMem_quotedChar]

theorem isSingle_opening (instantiation : Instantiation) (identity : Identity) :
    ∀ piece ∈ opening instantiation identity, piece.isSingle = true := by
  have quoted := newline_notMem_key identity
  have object : '\n' ∉ Rewriting.moduleObject.toList := by decide
  have line : makeModule.toList.contains '\n' = false := by decide
  cases instantiation <;> simp_all [opening, Piece.isSingle]

theorem isSingle_layout : ∀ piece ∈ layout instantiation entrySource records,
    piece.isSingle = true := by
  have closes : ∀ piece ∈ closing instantiation, piece.isSingle = true := by
    cases instantiation <;> decide
  have runs : ∀ piece ∈ runtime instantiation, piece.isSingle = true := by
    cases instantiation <;> decide +kernel
  have starts : ∀ piece ∈ prologue, piece.isSingle = true := by decide
  simp only [layout_eq, List.forall_mem_append, List.forall_mem_flatMap, List.forall_mem_cons]
  have registered : ∀ record ∈ records, (∀ piece ∈ opening instantiation record.identity,
      piece.isSingle = true) ∧ (Piece.verbatim (textOf record)).isSingle = true ∧
        ∀ piece ∈ closing instantiation, piece.isSingle = true :=
    fun record _ => ⟨isSingle_opening instantiation record.identity, rfl, closes⟩
  exact ⟨⟨⟨starts, registered⟩, runs⟩, rfl, by simp⟩

/-- The blanks before a piece. -/
def Piece.indentation : Piece → String
  | .line depth _ => String.ofList (List.replicate (2 * depth) ' ')
  | .verbatim _ => ""

/-- A compact piece has no blanks before it. -/
theorem Piece.render_false (piece : Piece) :
    piece.render false = piece.indentation ++ piece.render true := by
  cases piece <;> simp [Piece.render, Piece.indentation, String.append_assoc]

/-- A program is assembled unless a record was not visited, and the first such record is named. It has
fixed lines at its beginning; for each record in order, the lines that open its entry of the registry
with its key, its text as it is, but for the end of its last line, and the lines that close the entry;
lines that do not depend on the records; and the text of the entry. Every line that the assembler
writes is one line, and begins where a line begins. A compact program only lacks the blanks before
these lines. -/
theorem assemble_layout (instantiation : Instantiation) (entrySource : String)
    (dependencies : Dependencies) :
    let pieces := layout instantiation entrySource dependencies.records
    (∀ isCompact, assemble instantiation isCompact entrySource dependencies =
      match dependencies.records.find? (!·.isVisited) with
      | some record => .error (.incompleteDependency record.identity)
      | none => .ok (render isCompact pieces)) ∧
    (∀ isCompact, render isCompact pieces = render isCompact prologue ++
      String.join (dependencies.records.map fun r =>
        render isCompact (opening instantiation r.identity) ++ endLine (textOf r) ++
          render isCompact (closing instantiation)) ++
      render isCompact (runtime instantiation) ++ endLine entrySource) ∧
    embedded pieces = dependencies.records.map textOf ++ [entrySource] ∧
    (∀ before depth text after, pieces = before ++ .line depth text :: after →
      '\n' ∉ text.toList ∧ ∀ isCompact, IsWhole (render isCompact before)) ∧
    render false pieces = String.join (pieces.map fun piece =>
      piece.indentation ++ piece.render true) := by
  intro pieces
  refine ⟨fun isCompact => ?_, fun isCompact => ?_, ?_, ?_, ?_⟩
  · rw [assemble, finished_eq]
    cases dependencies.records.find? (!·.isVisited) <;> rfl
  · have sections (records : List Record) : render isCompact (records.flatMap fun r =>
          opening instantiation r.identity ++ .verbatim (textOf r) :: closing instantiation) =
        String.join (records.map fun r =>
          render isCompact (opening instantiation r.identity) ++ endLine (textOf r) ++
            render isCompact (closing instantiation)) := by
      induction records with
      | nil => rfl
      | cons record rest ih => simp [ih, String.append_assoc]
    simp only [pieces, layout_eq, render_append, sections, render_verbatim]
    simp [render]
  · simp [pieces, layout, embedded_program, Function.comp_def]
  · intro before depth text after split
    have single := isSingle_layout (.line depth text) (split ▸ by simp : _ ∈ pieces)
    exact ⟨by simpa [Piece.isSingle] using single, fun isCompact => isWhole_render isCompact before⟩
  · exact congrArg String.join (List.map_congr_left fun piece _ => piece.render_false)

/-- A text that looks like a line of the assembler and a text without any line are put in as they are;
of two records that were not visited the first one is named. -/
theorem assemble_layout_lookalike :
    let records : List Record := [⟨⟨"/a"⟩, some "\x60\n\x7d,\n\x60"⟩, ⟨⟨"/b"⟩, some ""⟩]
    (∃ text, assemble .cached false "b()" ⟨records⟩ = .ok text) ∧
    embedded (layout .cached "b()" records) = ["\x60\n\x7d,\n\x60", "", "b()"] ∧
    IsWhole (render false
      (prologue ++ opening .cached ⟨"/a"⟩ ++ [.verbatim "\x60\n\x7d,\n\x60"])) ∧
    assemble .cached false "b()" ⟨records ++ [⟨⟨"/c"⟩, none⟩, ⟨⟨"/d"⟩, none⟩]⟩ =
      .error (.incompleteDependency ⟨"/c"⟩) := by
  intro records
  obtain ⟨assembled, -, texts, lines, -⟩ := assemble_layout .cached "b()" ⟨records⟩
  obtain ⟨missing, -⟩ := assemble_layout .cached "b()" ⟨records ++ [⟨⟨"/c"⟩, none⟩, ⟨⟨"/d"⟩, none⟩]⟩
  exact ⟨⟨_, assembled false⟩, texts, (lines _ 2 "\x7d," _ rfl).2 false, missing false⟩

/-- In a program that runs a module whenever it is asked for, the line before the text of a module is
not the one with its key. -/
theorem assemble_opens_twice : ∃ text,
    assemble .perDispatch true "" ⟨[⟨⟨"/a"⟩, some "a();\n"⟩]⟩ = .ok text ∧
    "a();".toList ∈ text.toList.splitOn '\n' ∧
    (text.toList.splitOn '\n').IsChain fun line next =>
      next = "a();".toList → ¬(key ⟨"/a"⟩).toList <:+: line := by
  refine ⟨_, rfl, ?_⟩
  simp only [render, String.toList_join, List.flatMap_map]
  decide +kernel

end ScriptBundle.Assembly
