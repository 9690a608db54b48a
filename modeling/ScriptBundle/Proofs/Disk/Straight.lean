import ScriptBundle.Proofs.Disk.Places

/-! Ways down. A look-up that goes on behind a path passes a directory there, so nothing lies below what
is no directory. A look-up ends at a place with nothing but directories above it, whatever links it
went through; the canonical path of such a place goes straight down to it. -/
namespace ScriptBundle.Disk

variable {d : Disk}

/-! ### Going on behind a path -/

/-- A look-up that takes steps behind others takes the others first. -/
theorem walkOver_front {follow : Place → String → List String → Except Fault Place} {back : List String}
    (more : back ≠ [])
    (follows : ∀ place target rest found, follow place target (rest ++ back) = .ok found →
      ∃ middle, follow place target rest = .ok middle ∧ d.entry? middle = some .directory)
    {place found : Place} {front : List String}
    (walked : d.walkOver false follow place (front ++ back) = .ok found) :
    ∃ middle, d.walkOver false follow place front = .ok middle ∧
      d.entry? middle = some .directory := by
  induction front generalizing place with
  | nil =>
    obtain ⟨step, rest, rfl⟩ := List.exists_cons_of_ne_nil more
    obtain ⟨directory, -⟩ := (walkOver_cons ..).mp walked
    exact ⟨place, rfl, directory⟩
  | cons step rest ih =>
    obtain ⟨directory, leads⟩ := (walkOver_cons ..).mp walked
    cases leads with
    | stay here walked =>
      obtain ⟨middle, first, inside⟩ := ih walked
      exact ⟨middle, (walkOver_cons ..).mpr ⟨directory, .stay here first⟩, inside⟩
    | up here walked =>
      obtain ⟨middle, first, inside⟩ := ih walked
      exact ⟨middle, (walkOver_cons ..).mpr ⟨directory, .up here first⟩, inside⟩
    | new _ _ _ create => cases create
    | link target here up entered followed =>
      obtain ⟨middle, first, inside⟩ := follows _ _ _ _ followed
      exact ⟨middle, (walkOver_cons ..).mpr ⟨directory, .link target here up entered first⟩, inside⟩
    | down entry here up entered other walked =>
      obtain ⟨middle, first, inside⟩ := ih walked
      exact ⟨middle, (walkOver_cons ..).mpr ⟨directory, .down entry here up entered other first⟩,
        inside⟩

theorem walk_front {back : List String} (more : back ≠ []) {links : Nat} {place found : Place}
    {front : List String} (walked : d.walk false links place (front ++ back) = .ok found) :
    ∃ middle, d.walk false links place front = .ok middle ∧
      d.entry? middle = some .directory := by
  induction links generalizing place found front with
  | zero => exact walkOver_front more (by simp) walked
  | succ links ih =>
    refine walkOver_front more ?_ walked
    intro place target rest found followed
    split_ifs at followed ⊢
    all_goals
      rw [← List.append_assoc] at followed
      exact ih followed

theorem filter_stepsOf (pieces : List String) :
    (stepsOf pieces).filter (· ≠ ".") = pieces.filter fun piece => piece ≠ "" && piece ≠ "." := by
  fun_induction stepsOf pieces with
  | case1 => rfl
  | case2 => decide
  | case3 piece filled => simp [List.filter_cons, filled]
  | case4 rest more ih => simpa using ih
  | case5 piece rest more filled ih => rw [List.filter_cons, ih, List.filter_cons]; simp [filled]

/-- Whether a text is one piece of a path. -/
def IsPiece (name : String) : Prop := name ≠ "" ∧ '/' ∉ name.toList

instance (name : String) : Decidable (IsPiece name) := inferInstanceAs (Decidable (_ ∧ _))

theorem stepsOf_piece {name : String} (piece : IsPiece name) :
    stepsOf ((Path.splitSlash name.toList).map String.ofList) = [name] := by
  have alone : ['/'].intercalate [name.toList] = name.toList := by simp [List.intercalate]
  have whole : Path.splitSlash name.toList = [name.toList] := by
    rw [← alone, Path.splitSlash_intercalate (by simp) (by simpa using piece.2), alone]
  simp [whole, stepsOf, piece.1]

theorem isAbsolute_piece {name : String} (piece : IsPiece name) :
    (Path.mk name).isAbsolute = false := by
  by_contra absolute
  obtain ⟨rest, text⟩ := (Path.isAbsolute_iff _).mp (by simpa using absolute)
  exact piece.2 (by simp [show name.toList = '/' :: rest from text])

theorem contains_nul_lead {p : Path} (filled : p.text ≠ "") {rest : String}
    (clean : (p.lead ++ rest).toList.contains '\x00' = false) :
    p.text.toList.contains '\x00' = false := by
  rw [Bool.eq_false_iff, ne_eq, List.contains_iff_mem] at clean ⊢
  rw [String.toList_append, List.mem_append, not_or, Path.mem_lead filled (by decide)] at clean
  exact clean.1

/-- Only a directory has something below it. -/
theorem isDirectory_of_locate {p : Path} (filled : p.text ≠ "") {name : String}
    (piece : IsPiece name) {place : Place} (located : d.locate (p.join name) = .ok place) :
    d.isDirectory p = true := by
  obtain ⟨front, behind, names⟩ := steps_lead filled name
  rw [stepsOf_piece piece] at behind
  rw [Path.join_eq, isAbsolute_piece piece, if_neg (by simp), locate, reach] at located
  cases nul : (p.lead ++ name).toList.contains '\x00' with
  | true =>
    rw [if_pos nul] at located
    cases located
  | false =>
    -- The steps of the path itself lead the same way, wherever they stay in place.
    rw [if_neg (ne_true_of_eq_false nul), if_neg (by simp [piece.1]), Path.isAbsolute_lead filled, behind,
      walk_append _ _ _ (by simp), names, Path.names, ← filter_stepsOf,
      ← walk_append _ _ _ (by simp)] at located
    obtain ⟨middle, reached, directory⟩ := walk_front (by simp) located
    have here : d.locate p = .ok middle := by
      rw [locate, reach, contains_nul_lead filled nul, if_neg (by simp), if_neg filled]
      exact reached
    simp [isDirectory, here, directory]

/-! ### Places below directories alone -/

/-- Whether there are only directories above a place. -/
def IsStraight (d : Disk) (place : Place) : Prop :=
  ∀ above, above <+: place → above ≠ place → d.entry? above = some .directory

theorem isStraight_nil : d.IsStraight [] :=
  fun _ front other => absurd (List.prefix_nil.mp front) other

theorem IsStraight.below {place : Place} (straight : d.IsStraight place)
    (directory : d.entry? place = some .directory) (name : String) :
    d.IsStraight (place ++ [name]) := by
  intro above front other
  obtain same | front := List.prefix_concat_iff.mp front
  · exact absurd same other
  · by_cases same : above = place
    · rwa [same]
    · exact straight above front same

theorem IsStraight.up {place : Place} (straight : d.IsStraight place) :
    d.IsStraight place.dropLast := by
  intro above front other
  refine straight above (front.trans (List.dropLast_prefix place)) ?_
  rintro rfl
  exact other (front.eq_of_length_le (List.dropLast_prefix above).length_le)

/-- Steps lead from straight places to straight places, if links do. -/
theorem isStraight_walkOver {create : Bool} {follow : Place → String → List String → Except Fault Place}
    (links : ∀ place target rest found, d.IsStraight place →
      follow place target rest = .ok found → d.IsStraight found)
    {place found : Place} {steps : List String} (straight : d.IsStraight place)
    (walked : d.walkOver create follow place steps = .ok found) : d.IsStraight found := by
  induction steps generalizing place with
  | nil =>
    obtain rfl := Except.ok.inj walked
    exact straight
  | cons step rest ih =>
    obtain ⟨directory, leads⟩ := (walkOver_cons ..).mp walked
    cases leads with
    | stay _ walked => exact ih straight walked
    | up _ walked => exact ih straight.up walked
    | new _ _ _ _ _ found =>
      rw [found]
      exact straight.below directory step
    | link target _ _ _ followed => exact links _ _ _ _ straight followed
    | down entry _ _ _ _ walked => exact ih (straight.below directory step) walked

theorem isStraight_walk {create : Bool} {links : Nat} {place found : Place} {steps : List String}
    (straight : d.IsStraight place) (walked : d.walk create links place steps = .ok found) :
    d.IsStraight found := by
  induction links generalizing place found steps with
  | zero => exact isStraight_walkOver (by simp) straight walked
  | succ links ih =>
    refine isStraight_walkOver ?_ straight walked
    intro place target rest found straight followed
    split_ifs at followed
    · exact ih isStraight_nil followed
    · exact ih straight followed

/-- The names on the way to a straight place lead there, past any number of its first names. -/
theorem walkOver_straight {create : Bool} {follow : Place → String → List String → Except Fault Place}
    {front back : Place} (proper : IsProper (front ++ back)) (straight : d.IsStraight (front ++ back))
    {entry : Entry} (here : d.entry? (front ++ back) = some entry)
    (other : ∀ target, entry ≠ .link target) :
    d.walkOver create follow front back = .ok (front ++ back) := by
  induction back generalizing front with
  | nil => rw [List.append_nil, walkOver]
  | cons name rest ih =>
    have shifted : front ++ name :: rest = (front ++ [name]) ++ rest := by simp
    have directory : d.entry? front = some .directory := straight front (List.prefix_append _ _) (by simp)
    obtain ⟨-, here', up'⟩ := proper name (by simp)
    obtain ⟨entry', entered, other'⟩ : ∃ entry', d.entry? (front ++ [name]) = some entry' ∧
        ∀ target, entry' ≠ .link target := by
      by_cases last : rest = []
      · subst last
        exact ⟨entry, here, other⟩
      · exact ⟨.directory, straight _ (by simp) (by simpa using Ne.symm last), by simp⟩
    refine (walkOver_cons ..).mpr ⟨directory, .down entry' here' up' entered other' ?_⟩
    rw [shifted] at proper straight here ⊢
    exact ih proper straight here

/-! ### Canonical paths -/

/-- Whether a disk is one that an operating system can have: no name holds a NUL, and the working
directory has a canonical path. -/
structure IsSound (d : Disk) : Prop where
  names : ∀ place entry, d.entry? place = some entry → ∀ name ∈ place, '\x00' ∉ name.toList
  working : IsProper d.workingDirectory
  straight : d.IsStraight d.workingDirectory

theorem IsSound.ofEntries (names : ∀ listed ∈ d.entries, ∀ name ∈ listed.1, '\x00' ∉ name.toList)
    (root : d.workingDirectory = []) : d.IsSound := by
  constructor
  · intro place entry found name member
    exact names _ (mem_entries (List.ne_nil_of_mem member) found) name member
  · rw [root]
    exact isProper_nil
  · rw [root]
    exact isStraight_nil

/-- A look-up ends at a place whose names all lead down, and that has only directories above. -/
theorem IsSound.locate (sound : d.IsSound) {p : Path} {place : Place}
    (located : d.locate p = .ok place) : IsProper place ∧ d.IsStraight place := by
  rw [Disk.locate, reach] at located
  split_ifs at located
  · exact ⟨isProper_walk isProper_nil (areSteps_steps p) located, isStraight_walk isStraight_nil located⟩
  · exact ⟨isProper_walk sound.working (areSteps_steps p) located,
      isStraight_walk sound.straight located⟩

theorem stepsOf_eq_self {pieces : List String} (filled : "" ∉ pieces) : stepsOf pieces = pieces := by
  fun_induction stepsOf pieces with
  | case1 => rfl
  | case2 => simp at filled
  | case3 => rfl
  | case4 => simp at filled
  | case5 piece rest more _ ih => rw [ih fun member => filled (.tail _ member)]

theorem pieces_canonical {place : Place} (proper : IsProper place) (below : place ≠ []) :
    (canonical place).isAbsolute = true ∧ (canonical place).pieces = place :=
  Path.pieces_ofPieces below (fun name member => (proper name member).1.2) (by simp)

/-- The canonical path of a file leads to the file. -/
theorem IsSound.locate_canonical (sound : d.IsSound) {place : Place} (proper : IsProper place)
    (straight : d.IsStraight place) {content : ByteArray}
    (file : d.entry? place = some (.file content)) : d.locate (canonical place) = .ok place := by
  obtain ⟨absolute, pieces⟩ := pieces_canonical proper (ne_nil_of_file file)
  have clean : (canonical place).text.toList.contains '\x00' = false := by
    rw [Bool.eq_false_iff, ne_eq, List.contains_iff_mem, ← Path.mem_pieces (by decide), pieces]
    rintro ⟨name, member, nul⟩
    exact sound.names place _ file name member nul
  have filled : (canonical place).text ≠ "" := by simp [canonical, Path.ofPieces]
  have steps : steps (canonical place) = place := by
    rw [Disk.steps, pieces, stepsOf_eq_self fun member => (proper "" member).1.1 rfl]
  rw [Disk.locate, reach, clean, if_neg (by simp), if_neg filled, absolute, if_pos rfl, steps,
    linkLimit, walk]
  exact walkOver_straight proper straight file (by simp)

end ScriptBundle.Disk
