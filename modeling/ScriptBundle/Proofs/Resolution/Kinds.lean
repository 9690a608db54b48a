import ScriptBundle.Proofs.Path.Ancestors
import ScriptBundle.Proofs.Resolution.Order

/-! Where attempts are looked up. Each attempt is judged by its own text, and the text that is put behind
a specifier may change the judgement: it does so for three specifiers, the empty one and those that
are `.` and `..`, and for no other one. -/
namespace ScriptBundle.Resolution

/-- Where an attempt is looked up: beside the importing module, or in the package directories above. -/
def IsPlace (beside : Bool) (directory : Path) (attempt : String) (place : Path) : Prop :=
  if beside then place = directory.join attempt
  else ∃ above : Path, above.IsAbove directory ∧ above.fileName? ≠ some packageDirectory ∧
    place = (above.join packageDirectory).join attempt

theorem mem_bases_iff {directory place : Path} {attempt : String} :
    place ∈ bases directory attempt ↔ IsPlace (isPathLike attempt) directory attempt place := by
  unfold bases IsPlace
  cases isPathLike attempt with
  | true => simp
  | false =>
    simp [Path.mem_ancestors_iff, and_assoc, eq_comm (a := place)]

theorem isPathLike_iff (specifier : String) : isPathLike specifier = true ↔
    specifier.toList = ['.'] ∨ specifier.toList = ['.', '.'] ∨ ['.', '/'] <+: specifier.toList ∨
      ['.', '.', '/'] <+: specifier.toList ∨ ['/'] <+: specifier.toList := by
  have absolute : (Path.mk specifier).isAbsolute = true ↔ ['/'] <+: specifier.toList := by
    cases text : specifier.toList with
    | nil => simp [Path.isAbsolute, text]
    | cons c rest => simp [Path.isAbsolute, text, List.cons_prefix_cons, eq_comm]
  simp only [isPathLike, Bool.or_eq_true, decide_eq_true_eq, absolute, String.isPrefixOf,
    String.startsWith_string_iff, or_assoc, ← String.toList_inj]
  rfl

/-- The specifiers and attempts whose kinds differ. -/
def misjudged : List (String × String) := [(".", "..ts"), ("..", "...ts"), ("", "/index.ts")]

/-- Behind a single or a double dot, the extension makes a name that is no path. -/
theorem isPathLike_source (specifier : String) : isPathLike (specifier ++ ".ts") = true ↔
    isPathLike specifier = true ∧ specifier ≠ "." ∧ specifier ≠ ".." := by
  have single : specifier = "." ↔ specifier.toList = ['.'] := by rw [← String.toList_inj]; rfl
  have double : specifier = ".." ↔ specifier.toList = ['.', '.'] := by rw [← String.toList_inj]; rfl
  have extension : ".ts".toList = ['.', 't', 's'] := rfl
  simp only [isPathLike_iff, ne_eq, single, double, String.toList_append, extension]
  generalize specifier.toList = text
  -- A text of three characters and more has all that is looked at before its end.
  rcases text with _ | ⟨a, _ | ⟨b, _ | ⟨c, rest⟩⟩⟩ <;> grind

/-- The index makes an absolute path of nothing. -/
theorem isPathLike_index (specifier : String) : isPathLike (specifier ++ "/index.ts") = true ↔
    isPathLike specifier = true ∨ specifier = "" := by
  have empty : specifier = "" ↔ specifier.toList = [] := by rw [← String.toList_inj]; rfl
  have index : "/index.ts".toList = '/' :: "index.ts".toList := rfl
  simp only [isPathLike_iff, empty, String.toList_append, index]
  generalize specifier.toList = text
  rcases text with _ | ⟨a, _ | ⟨b, _ | ⟨c, rest⟩⟩⟩ <;> grind

theorem isPathLike_attempt {specifier attempt : String} (member : attempt ∈ attempts specifier) :
    isPathLike attempt = (isPathLike specifier ^^ misjudged.contains (specifier, attempt)) := by
  rw [attempts_eq, List.mem_cons, List.mem_cons, List.mem_singleton] at member
  by_cases nothing : specifier = ""
  · subst nothing
    rcases member with rfl | rfl | rfl <;> decide +kernel
  by_cases single : specifier = "."
  · subst single
    rcases member with rfl | rfl | rfl <;> decide +kernel
  by_cases double : specifier = ".."
  · subst double
    rcases member with rfl | rfl | rfl <;> decide +kernel
  have apart : misjudged.contains (specifier, attempt) = false := by
    simp [misjudged, nothing, single, double]
  rw [apart, Bool.xor_false, Bool.eq_iff_iff]
  rcases member with rfl | rfl | rfl
  · rfl
  · simp [isPathLike_source, single, double]
  · simp [isPathLike_index, nothing]

/-- Exactly three specifiers have an attempt that is misjudged. -/
theorem misjudged_iff (specifier : String) :
    (∀ attempt ∈ attempts specifier, misjudged.contains (specifier, attempt) = false) ↔
      specifier ∉ ["", ".", ".."] := by
  constructor
  · intro none listed
    rw [List.mem_cons, List.mem_cons, List.mem_singleton] at listed
    rcases listed with rfl | rfl | rfl
    · exact absurd (none "/index.ts" (by decide +kernel)) (by decide)
    · exact absurd (none "..ts" (by decide +kernel)) (by decide)
    · exact absurd (none "...ts" (by decide +kernel)) (by decide)
  · intro other attempt _
    simp only [List.mem_cons, List.not_mem_nil, or_false, not_or] at other
    simp [misjudged, other]

theorem mem_searchList_iff {disk : Disk} {directory : Path} {specifier : String} {file : Path} :
    file ∈ searchList disk directory specifier ↔ ∃ attempt ∈ attempts specifier,
      ∃ place ∈ bases directory attempt, file ∈ candidatesAt disk place := by
  simp only [searchList, ← attempts_eq, List.mem_flatMap]

/-- An attempt is looked up as the kind of its specifier demands, unless it is one of the misjudged
ones, which three specifiers have; what is found is found there, and nothing is if no place has it. -/
theorem resolve_by_kind (disk : Disk) (specifier : String) (importer : Path) (log : Log) :
    let directory := directoryOf importer
    let result := ((resolve disk specifier importer).runFrom { log }).1
    let beside (attempt : String) := isPathLike specifier ^^ misjudged.contains (specifier, attempt)
    ((∀ attempt ∈ attempts specifier, beside attempt = isPathLike specifier) ↔
      specifier ∉ ["", ".", ".."]) ∧
    (∀ attempt ∈ attempts specifier, ∀ place, place ∈ bases directory attempt ↔
      IsPlace (beside attempt) directory attempt place) ∧
    (∀ identity, result = .ok identity → ∃ attempt ∈ attempts specifier, ∃ place,
      IsPlace (beside attempt) directory attempt place ∧
      ∃ file ∈ candidatesAt disk place, disk.isFile file = true ∧
        disk.canonicalize file = .ok identity) ∧
    ∀ e, result = .error e → ∀ attempt ∈ attempts specifier, ∀ place,
      IsPlace (beside attempt) directory attempt place →
      ∀ file ∈ candidatesAt disk place, disk.isFile file = false := by
  intro directory result beside
  have places : ∀ attempt ∈ attempts specifier, ∀ place, place ∈ bases directory attempt ↔
      IsPlace (beside attempt) directory attempt place := by
    intro attempt member place
    rw [mem_bases_iff, isPathLike_attempt member]
  have answered : result = answer disk specifier importer := resolve_fresh disk specifier importer log
  refine ⟨?_, places, fun identity found => ?_, fun e failed attempt member place here file inside => ?_⟩
  · have kept (kind wrong : Bool) : (kind ^^ wrong) = kind ↔ wrong = false := by
      cases kind <;> cases wrong <;> decide
    simp only [beside, kept]
    exact misjudged_iff specifier
  · rw [answered, answer_eq_ok_iff] at found
    obtain ⟨file, first, canonical⟩ := found
    obtain ⟨attempt, member, place, here, inside⟩ := mem_searchList_iff.mp (List.mem_of_find?_eq_some first)
    exact ⟨attempt, member, place, (places attempt member place).mp here, file, inside,
      List.find?_some first, canonical⟩
  · rw [answered, answer_eq_error_iff] at failed
    have listed : file ∈ searchList disk directory specifier :=
      mem_searchList_iff.mpr ⟨attempt, member, place, (places attempt member place).mpr here, inside⟩
    simpa using List.find?_eq_none.mp failed.2 file listed

/-- A disk with a file that only an attempt for a double dot finds, in a package directory. -/
def dotted : Disk where
  entries := [(["a"], .directory), (["node_modules"], .directory),
    (["node_modules", "...ts"], .file "".toUTF8), (["a", "..ts"], .file "".toUTF8)]
  workingDirectory := []

theorem resolve_by_kind_dotted :
    (∃ attempt ∈ attempts "..", ∃ place,
      IsPlace (isPathLike ".." ^^ misjudged.contains ("..", attempt)) (directoryOf ⟨"/a/m.ts"⟩) attempt place ∧
      ∃ file ∈ candidatesAt dotted place, dotted.isFile file = true ∧
        dotted.canonicalize file = .ok ⟨"/node_modules/...ts"⟩) ∧
    (directoryOf ⟨"/a/m.ts"⟩).join "./x.ts" ∈ bases (directoryOf ⟨"/a/m.ts"⟩) "./x.ts" ∧
    dotted.isFile ((directoryOf ⟨"/a/m.ts"⟩).join "./x.ts") = false := by
  have failed : ((resolve dotted "./x" ⟨"/a/m.ts"⟩).runFrom { log := .empty }).1 =
      .error (.resolution "./x" ⟨"/a/m.ts"⟩) := by decide +kernel
  have place : IsPlace (isPathLike "./x" ^^ misjudged.contains ("./x", "./x.ts")) (directoryOf ⟨"/a/m.ts"⟩)
      "./x.ts" ((directoryOf ⟨"/a/m.ts"⟩).join "./x.ts") := by
    rw [show (isPathLike "./x" ^^ misjudged.contains ("./x", "./x.ts")) = true by decide +kernel]
    exact rfl
  have member : "./x.ts" ∈ attempts "./x" := by decide +kernel
  refine ⟨?_, ?_, ?_⟩
  · exact (resolve_by_kind dotted ".." ⟨"/a/m.ts"⟩ .empty).2.2.1 _ (by decide +kernel)
  · exact ((resolve_by_kind dotted "./x" ⟨"/a/m.ts"⟩ .empty).2.1 _ member _).mpr place
  · exact (resolve_by_kind dotted "./x" ⟨"/a/m.ts"⟩ .empty).2.2.2 _ failed _ member _ place _ (by decide +kernel)

/-- The file beside the importing module that the second attempt for a dot names is not looked up, and
the one in a package directory is found for a double dot. -/
theorem resolve_misjudges :
    isPathLike "." = true ∧ "..ts" ∈ attempts "." ∧
    (resolve dotted "." ⟨"/a/m.ts"⟩).alone = .error (.resolution "." ⟨"/a/m.ts"⟩) ∧
    ((directoryOf ⟨"/a/m.ts"⟩).join "..ts") ∈ candidatesAt dotted ((directoryOf ⟨"/a/m.ts"⟩).join "..ts") ∧
    dotted.isFile ((directoryOf ⟨"/a/m.ts"⟩).join "..ts") = true ∧
    isPathLike ".." = true ∧
    (resolve dotted ".." ⟨"/a/m.ts"⟩).alone = .ok ⟨"/node_modules/...ts"⟩ := by
  decide +kernel

end ScriptBundle.Resolution
