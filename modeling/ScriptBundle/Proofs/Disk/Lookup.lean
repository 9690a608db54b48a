import Mathlib.Data.List.Dedup
import Mathlib.Data.List.Perm.Subperm
import ScriptBundle.Disk
import ScriptBundle.Proofs.Path.Spelling

/-! Looking paths up. A step that stays where it is does not matter while further steps follow, so
paths that are alike lead to the same place; the files of a disk are finitely many, and what a path
to a file denotes is the canonical path of one of them. -/
namespace ScriptBundle.Disk

theorem stepsOf_append (front : List String) {back : List String} (filled : back ≠ []) :
    stepsOf (front ++ back) = front.filter (· ≠ "") ++ stepsOf back := by
  induction front with
  | nil => rfl
  | cons piece front ih =>
    obtain ⟨next, rest, more⟩ := List.exists_cons_of_ne_nil (l := front ++ back) (by simp [filled])
    rw [List.cons_append, more, stepsOf, ← more, ih, List.filter_cons]
    · split_ifs <;> simp_all
    · simp

theorem stepsOf_ne_nil {pieces : List String} (filled : pieces ≠ []) : stepsOf pieces ≠ [] := by
  fun_induction stepsOf pieces with
  | case1 => exact absurd rfl filled
  | case2 => simp
  | case3 => simp
  | case4 rest more ih => exact ih more
  | case5 => simp

section Leads

variable (d : Disk) (create : Bool) (follow : Place → String → List String → Except Fault Place)
  (place : Place) (step : String) (rest : List String) (found : Place)

/-- How a step from a directory, and the further ones, lead to a place. -/
inductive Leads : Prop where
  | stay : step = "." → d.walkOver create follow place rest = .ok found → Leads
  | up : step = ".." → d.walkOver create follow place.dropLast rest = .ok found → Leads
  | new : step ≠ "." → step ≠ ".." → d.entry? (place ++ [step]) = none →
      create = true → rest = [] → found = place ++ [step] → Leads
  | link (target : String) : step ≠ "." → step ≠ ".." →
      d.entry? (place ++ [step]) = some (.link target) → follow place target rest = .ok found → Leads
  | down (entry : Entry) : step ≠ "." → step ≠ ".." → d.entry? (place ++ [step]) = some entry →
      (∀ target, entry ≠ .link target) → d.walkOver create follow (place ++ [step]) rest = .ok found →
      Leads

theorem walkOver_cons : d.walkOver create follow place (step :: rest) = .ok found ↔
    d.entry? place = some .directory ∧ d.Leads create follow place step rest found := by
  constructor
  · intro walked
    rw [walkOver] at walked
    split at walked
    next directory =>
      refine ⟨directory, ?_⟩
      by_cases stay : step = "."
      · rw [if_pos stay] at walked
        exact .stay stay walked
      by_cases up : step = ".."
      · rw [if_neg stay, if_pos up] at walked
        exact .up up walked
      rw [if_neg stay, if_neg up] at walked
      cases below : d.entry? (place ++ [step]) with
      | none =>
        rw [below] at walked
        dsimp only at walked
        split_ifs at walked with last
        rw [Bool.and_eq_true, List.isEmpty_iff] at last
        exact .new stay up below last.1 last.2 (Except.ok.inj walked).symm
      | some entry =>
        rw [below] at walked
        cases entry with
        | link target => exact .link target stay up below walked
        | directory => exact .down _ stay up below (by simp) walked
        | file content => exact .down _ stay up below (by simp) walked
    next => cases walked
  · rintro ⟨directory, leads⟩
    rw [walkOver, directory]
    cases leads with
    | stay here walked => simpa [here] using walked
    | up here walked => simpa [here] using walked
    | new stay up missing create last found => simp [stay, up, missing, create, last, found]
    | link target stay up below followed => simpa [stay, up, below] using followed
    | down entry stay up below other walked =>
      cases entry with
      | link target => exact absurd rfl (other target)
      | directory => simpa [stay, up, below] using walked
      | file content => simpa [stay, up, below] using walked

end Leads

/-- Where to stay is no step while further steps follow: they ask for a directory as well. -/
theorem walkOver_here (d : Disk) (create : Bool)
    (follow : Place → String → List String → Except Fault Place) (place : Place)
    {rest : List String} (filled : rest ≠ []) :
    d.walkOver create follow place ("." :: rest) = d.walkOver create follow place rest := by
  obtain ⟨step, tail, rfl⟩ := List.exists_cons_of_ne_nil filled
  rw [walkOver]
  cases found : d.entry? place with
  | none => simp [walkOver, found]
  | some entry => cases entry <;> simp [walkOver, found]

theorem walkOver_append (d : Disk) (create : Bool)
    (follow : Place → String → List String → Except Fault Place) {tail : List String}
    (filled : tail ≠ [])
    (agree : ∀ place target steps, follow place target (steps ++ tail) =
      follow place target (steps.filter (· ≠ ".") ++ tail))
    (place : Place) (steps : List String) :
    d.walkOver create follow place (steps ++ tail) =
      d.walkOver create follow place (steps.filter (· ≠ ".") ++ tail) := by
  induction steps generalizing place with
  | nil => rfl
  | cons step rest ih =>
    by_cases here : step = "."
    · subst here
      rw [List.cons_append, walkOver_here _ _ _ _ (by simp [filled]), ih]
      rfl
    · have more (steps : List String) : (steps ++ tail).isEmpty = false := by simp [filled]
      rw [List.filter_cons_of_pos (by simpa using here), List.cons_append, List.cons_append,
        walkOver, walkOver]
      simp only [← ih, ← agree, here, more]

/-- Steps that stay where they are may be left out, except at the end. -/
theorem walk_append (d : Disk) (create : Bool) (links : Nat) {tail : List String}
    (filled : tail ≠ []) (place : Place) (steps : List String) :
    d.walk create links place (steps ++ tail) =
      d.walk create links place (steps.filter (· ≠ ".") ++ tail) := by
  induction links generalizing place steps with
  | zero => exact walkOver_append d create _ filled (fun _ _ _ => rfl) place steps
  | succ links ih =>
    refine walkOver_append d create _ filled ?_ place steps
    intro place target steps
    split
    · rfl
    · rw [← List.append_assoc, ih, ← List.append_assoc, ih _ (_ ++ steps.filter _)]
      simp [List.filter_filter]

theorem steps_lead {p : Path} (filled : p.text ≠ "") (rest : String) :
    ∃ front, steps ⟨p.lead ++ rest⟩ =
        front ++ stepsOf ((Path.splitSlash rest.toList).map String.ofList) ∧
      front.filter (· ≠ ".") = p.names := by
  obtain ⟨front, pieces, same⟩ := Path.pieces_lead filled rest
  refine ⟨front.filter (· ≠ ""), ?_, ?_⟩
  · rw [steps, pieces, stepsOf_append _ (by simp [Path.splitSlash_ne_nil])]
  · rw [same, List.filter_filter, Path.names]
    congr
    funext piece
    simp [Bool.and_comm]

/-- Paths that are alike lead to the same place. -/
theorem locate_alike (disk : Disk) {p q : Path} (alike : Path.Alike p q) :
    disk.locate p = disk.locate q := by
  obtain @⟨d, e, same, rest⟩ := alike
  by_cases empty : d.text = ""
  · have empty' : e.text = "" := by rwa [Path.text_eq_empty_iff, ← same, ← Path.text_eq_empty_iff]
    simp [Path.lead, empty, empty']
  · have filled' : e.text ≠ "" := by rwa [ne_eq, Path.text_eq_empty_iff, ← same,
      ← Path.text_eq_empty_iff]
    obtain ⟨kind, bodies⟩ := Path.components_inj.mp same
    have names : d.names = e.names := by rw [Path.names_eq, Path.names_eq, bodies]
    have nul : (d.lead ++ rest).toList.contains '\x00' = (e.lead ++ rest).toList.contains '\x00' := by
      rw [Bool.eq_iff_iff]
      simp only [List.contains_iff_mem, String.toList_append, List.mem_append,
        Path.mem_lead empty (c := '\x00') (by decide),
        Path.mem_lead filled' (c := '\x00') (by decide),
        ← Path.mem_names (c := '\x00') (by decide) (by decide) d,
        ← Path.mem_names (c := '\x00') (by decide) (by decide) e, names]
    obtain ⟨front, steps, plain⟩ := steps_lead empty rest
    obtain ⟨front', steps', plain'⟩ := steps_lead filled' rest
    have more : stepsOf ((Path.splitSlash rest.toList).map String.ofList) ≠ [] :=
      stepsOf_ne_nil (by simp [Path.splitSlash_ne_nil])
    have written {p : Path} (filled : p.text ≠ "") : p.lead ++ rest ≠ "" := by
      simp [Path.lead_eq_empty_iff, filled]
    unfold locate reach
    simp only [nul, written empty, written filled', if_false, Path.isAbsolute_lead empty,
      Path.isAbsolute_lead filled', kind, steps, steps']
    rw [walk_append _ _ _ more, plain, names, ← plain', ← walk_append _ _ _ more]

theorem isFile_alike (disk : Disk) {p q : Path} (alike : Path.Alike p q) :
    disk.isFile p = disk.isFile q := by
  simp [isFile, disk.locate_alike alike]

theorem isDirectory_alike (disk : Disk) {p q : Path} (alike : Path.Alike p q) :
    disk.isDirectory p = disk.isDirectory q := by
  simp [isDirectory, disk.locate_alike alike]

theorem readText_alike (disk : Disk) {p q : Path} (alike : Path.Alike p q) :
    disk.readText p = disk.readText q := by
  simp [readText, readBytes, disk.locate_alike alike]

theorem canonicalize_alike (disk : Disk) {p q : Path} (alike : Path.Alike p q) :
    disk.canonicalize p = disk.canonicalize q := by
  simp [canonicalize, disk.locate_alike alike]

theorem isFile_iff (disk : Disk) (p : Path) : disk.isFile p = true ↔
    ∃ place content, disk.locate p = .ok place ∧ disk.entry? place = some (.file content) := by
  unfold isFile
  cases disk.locate p with
  | error cause => simp
  | ok place =>
    cases found : disk.entry? place with
    | none => simp [found]
    | some entry => cases entry <;> simp [found]

/-- The identity of the file that a path denotes, if it denotes one. -/
def fileAt (disk : Disk) (p : Path) : Option Identity :=
  if disk.isFile p then (disk.canonicalize p).toOption else none

theorem fileAt_alike (disk : Disk) {p q : Path} (alike : Path.Alike p q) :
    disk.fileAt p = disk.fileAt q := by
  simp [fileAt, disk.isFile_alike alike, disk.canonicalize_alike alike]

theorem fileAt_eq_some_iff (disk : Disk) (p : Path) (identity : Identity) :
    disk.fileAt p = some identity ↔
      disk.isFile p = true ∧ disk.canonicalize p = .ok identity := by
  unfold fileAt
  cases disk.canonicalize p <;> simp [Except.toOption]

/-- A file has a canonical path. -/
theorem isSome_fileAt (disk : Disk) (p : Path) : (disk.fileAt p).isSome = disk.isFile p := by
  cases file : disk.isFile p with
  | false => simp [fileAt, file]
  | true =>
    obtain ⟨place, content, located, -⟩ := (disk.isFile_iff p).mp file
    simp [fileAt, file, canonicalize, located, Except.toOption]

/-- A place that holds no directory is not the root. -/
theorem ne_nil_of_entry? {d : Disk} {place : Place} (below : d.entry? place ≠ some .directory) :
    place ≠ [] := by
  rintro rfl
  exact below rfl

theorem ne_nil_of_file {d : Disk} {place : Place} {content : ByteArray}
    (file : d.entry? place = some (.file content)) : place ≠ [] :=
  ne_nil_of_entry? (d := d) (by simp [file])

theorem mem_entries {d : Disk} {place : Place} (below : place ≠ []) {entry : Entry}
    (found : d.entry? place = some entry) : (place, entry) ∈ d.entries := by
  unfold entry? at found
  rw [if_neg (by simpa using below)] at found
  obtain ⟨before, after, whole, -⟩ := List.lookup_eq_some_iff.mp found
  simp [whole]

/-- Whether an identity is the canonical path of a regular file. -/
def HasFile (disk : Disk) (identity : Identity) : Prop :=
  ∃ place content, disk.entry? place = some (.file content) ∧ identity = canonical place

theorem hasFile_of_fileAt {disk : Disk} {p : Path} {identity : Identity}
    (found : disk.fileAt p = some identity) : disk.HasFile identity := by
  obtain ⟨file, canonicalized⟩ := (disk.fileAt_eq_some_iff p identity).mp found
  obtain ⟨place, content, located, entry⟩ := (disk.isFile_iff p).mp file
  refine ⟨place, content, entry, ?_⟩
  simpa [canonicalize, located, eq_comm] using canonicalized

/-- Whether a place holds a file. -/
def holdsFile (disk : Disk) (place : Place) : Bool :=
  match disk.entry? place with
  | some (.file _) => true
  | _ => false

/-- The places that hold files, each once. -/
def files (disk : Disk) : List Place := (disk.entries.map (·.1)).dedup.filter disk.holdsFile

theorem mem_files (disk : Disk) (place : Place) :
    place ∈ disk.files ↔ ∃ content, disk.entry? place = some (.file content) := by
  have holds : disk.holdsFile place = true ↔
      ∃ content, disk.entry? place = some (.file content) := by
    unfold holdsFile
    cases disk.entry? place with
    | none => simp
    | some entry => cases entry <;> simp
  rw [files, List.mem_filter, List.mem_dedup, holds, and_iff_right_iff_imp]
  rintro ⟨content, entry⟩
  exact List.mem_map_of_mem (mem_entries (ne_nil_of_file entry) entry)

theorem length_files_le (disk : Disk) : disk.files.length ≤ disk.entries.length := by
  calc disk.files.length ≤ (disk.entries.map (·.1)).dedup.length := List.length_filter_le _ _
    _ ≤ (disk.entries.map (·.1)).length := (List.dedup_sublist _).length_le
    _ = disk.entries.length := List.length_map _

/-- Different identities of files are not more than there are files. -/
theorem length_le_files {disk : Disk} {identities : List Identity} (unique : identities.Nodup)
    (exist : ∀ identity ∈ identities, disk.HasFile identity) :
    identities.length ≤ disk.files.length := by
  have inside : identities ⊆ disk.files.map canonical := by
    intro identity member
    obtain ⟨place, content, entry, rfl⟩ := exist identity member
    exact List.mem_map_of_mem ((disk.mem_files place).mpr ⟨content, entry⟩)
  calc identities.length ≤ (disk.files.map canonical).length :=
        (List.subperm_of_subset unique inside).length_le
    _ = disk.files.length := List.length_map _

end ScriptBundle.Disk
