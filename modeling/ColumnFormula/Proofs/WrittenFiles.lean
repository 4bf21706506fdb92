import ColumnFormula.Files
import Mathlib.Data.List.Infix

namespace ColumnFormula.Files

/-- A text can be written at the path: it is that of a file, it leads to a place, and there is no
directory. -/
def IsWritable (files : Files) (path : Text) : Prop :=
  ∃ place, files.filePlace? path = some place ∧ files.isDirectory place = false

variable {files written : Files} {path content : Text} {place : List Text}

theorem isDirectory_iff :
    files.isDirectory place ↔ ∃ directory ∈ files.knownDirectories, place <+: directory := by
  simp [isDirectory, List.any_eq_true, List.isPrefixOf_iff_prefix]

theorem isDirectory_mono {above : List Text} (habove : above <+: place)
    (h : files.isDirectory place) : files.isDirectory above := by
  obtain ⟨directory, hdirectory, hplace⟩ := isDirectory_iff.mp h
  exact isDirectory_iff.mpr ⟨directory, hdirectory, habove.trans hplace⟩

theorem isDirectory_of_mem (h : place ∈ files.knownDirectories) : files.isDirectory place :=
  isDirectory_iff.mpr ⟨place, h, List.prefix_refl _⟩

theorem isDirectory_here (files : Files) : files.isDirectory files.here :=
  isDirectory_of_mem List.mem_cons_self

theorem isDirectory_dropLast_move (h : files.isDirectory place) (step : Text) :
    files.isDirectory (Path.move place step).dropLast := by
  simp only [Path.move]
  split_ifs
  · exact isDirectory_mono List.nil_prefix h
  · exact isDirectory_mono ((List.dropLast_prefix _).trans (List.dropLast_prefix _)) h
  · rwa [List.dropLast_concat]

theorem isDirectory_dropLast_of_step? {next : List Text} {step : Text}
    (h : files.step? place step = some next) : files.isDirectory next.dropLast := by
  simp only [step?, Option.ite_none_right_eq_some, Option.some.injEq] at h
  obtain ⟨hroot | hplace, rfl⟩ := h
  · rw [Path.move, if_pos hroot]
    exact isDirectory_mono List.nil_prefix files.isDirectory_here
  · exact isDirectory_dropLast_move hplace step

theorem isDirectory_dropLast_of_foldlM {start : List Text} {steps : List Text}
    (hstart : files.isDirectory start.dropLast)
    (h : steps.foldlM files.step? start = some place) : files.isDirectory place.dropLast := by
  induction steps generalizing start with
  | nil =>
      obtain rfl := Option.some.inj h
      exact hstart
  | cons step steps ih =>
      obtain ⟨next, hnext, hrest⟩ := Option.bind_eq_some_iff.mp h
      exact ih (isDirectory_dropLast_of_step? hnext) hrest

theorem isDirectory_dropLast_of_filePlace? (h : files.filePlace? path = some place) :
    files.isDirectory place.dropLast := by
  obtain ⟨-, hplace⟩ := Option.ite_none_right_eq_some.mp h
  exact isDirectory_dropLast_of_foldlM
    (isDirectory_mono (List.dropLast_prefix _) files.isDirectory_here) hplace

theorem write?_eq_some_iff :
    files.write? path content = some written ↔
      ∃ place, files.filePlace? path = some place ∧ files.isDirectory place = false ∧
        { files with
          entries := (place, .text content) :: files.entries.filter (·.1 ≠ place) } = written := by
  simp only [write?, Option.bind_eq_bind, Option.bind_eq_some_iff, Option.ite_none_left_eq_some,
    Bool.not_eq_true, Option.some.injEq]

theorem isWritable_of_write? (h : files.write? path content = some written) :
    files.IsWritable path := by
  obtain ⟨place, hplace, hfree, -⟩ := write?_eq_some_iff.mp h
  exact ⟨place, hplace, hfree⟩

theorem not_isWritable_of_write? (h : files.write? path content = none) :
    ¬ files.IsWritable path := by
  rintro ⟨place, hplace, hfree⟩
  have hwritten : files.write? path content = some _ :=
    write?_eq_some_iff.mpr ⟨place, hplace, hfree, rfl⟩
  rw [h] at hwritten
  contradiction

theorem mem_knownDirectories_iff {directory : List Text} :
    directory ∈ files.knownDirectories ↔ directory = files.here ∨ directory ∈ files.directories ∨
      ∃ entry ∈ files.entries, entry.1.dropLast = directory := by
  simp only [knownDirectories, List.mem_cons, List.mem_append, List.mem_map]

/-- Writing a file makes no directory and removes none: that of the file was there before. -/
theorem isDirectory_of_write? (h : files.write? path content = some written) (q : List Text) :
    written.isDirectory q = files.isDirectory q := by
  obtain ⟨place, hplace, -, rfl⟩ := write?_eq_some_iff.mp h
  rw [Bool.eq_iff_iff]
  constructor
  · intro hq
    obtain ⟨directory, hdirectory, habove⟩ := isDirectory_iff.mp hq
    refine isDirectory_mono habove ?_
    rcases mem_knownDirectories_iff.mp hdirectory with rfl | hdirectory | ⟨entry, hentry, rfl⟩
    · exact files.isDirectory_here
    · exact isDirectory_of_mem (mem_knownDirectories_iff.mpr (.inr (.inl hdirectory)))
    · rcases List.mem_cons.mp hentry with rfl | hentry
      · exact isDirectory_dropLast_of_filePlace? hplace
      · have hmem := (List.mem_filter.mp hentry).1
        exact isDirectory_of_mem (mem_knownDirectories_iff.mpr (.inr (.inr ⟨entry, hmem, rfl⟩)))
  · intro hq
    obtain ⟨directory, hdirectory, habove⟩ := isDirectory_iff.mp hq
    refine isDirectory_iff.mpr ⟨directory, mem_knownDirectories_iff.mpr ?_, habove⟩
    rcases mem_knownDirectories_iff.mp hdirectory with rfl | hdirectory | ⟨entry, hentry, rfl⟩
    · exact .inl rfl
    · exact .inr (.inl hdirectory)
    · by_cases hkey : entry.1 = place
      · exact .inr (.inr ⟨_, List.mem_cons_self, congrArg _ hkey.symm⟩)
      · have hmem : entry ∈ files.entries.filter (·.1 ≠ place) :=
          List.mem_filter.mpr ⟨hentry, by simpa using hkey⟩
        exact .inr (.inr ⟨entry, List.mem_cons_of_mem _ hmem, rfl⟩)

theorem filePlace?_of_write? (h : files.write? path content = some written) (other : Text) :
    written.filePlace? other = files.filePlace? other := by
  have hstep : written.step? = files.step? := by
    funext place step
    simp only [step?, isDirectory_of_write? h]
  have hhere : written.here = files.here := by
    obtain ⟨place, -, -, rfl⟩ := write?_eq_some_iff.mp h
    rfl
  rw [filePlace?, filePlace?, place?, place?, hstep, hhere]

theorem lookup_filter {α β : Type} [BEq α] [LawfulBEq α] {p : α → Bool} {key : α} (h : p key)
    (entries : List (α × β)) : (entries.filter fun e => p e.1).lookup key = entries.lookup key := by
  induction entries with
  | nil => rfl
  | cons entry entries ih =>
      obtain ⟨k, value⟩ := entry
      rw [List.filter_cons]
      by_cases hkey : key = k
      · subst hkey
        simp [h]
      · have hne : (key == k) = false := beq_eq_false_iff_ne.mpr hkey
        split <;> simp only [List.lookup_cons, hne, ih]

theorem get?_of_write? (h : files.write? path content = some written) :
    written.get? path = some (.text content) := by
  rw [get?, filePlace?_of_write? h]
  obtain ⟨place, hplace, -, rfl⟩ := write?_eq_some_iff.mp h
  simp [hplace]

theorem get?_of_write?_of_ne (h : files.write? path content = some written) {other : Text}
    (hne : files.filePlace? other ≠ files.filePlace? path) :
    written.get? other = files.get? other := by
  rw [get?, filePlace?_of_write? h]
  obtain ⟨place, hplace, -, rfl⟩ := write?_eq_some_iff.mp h
  rw [hplace] at hne
  cases hother : files.filePlace? other with
  | none => simp [get?, hother]
  | some place' =>
      have hne' : place' ≠ place := fun heq => hne (hother.trans (congrArg some heq))
      have hbeq : (place' == place) = false := beq_eq_false_iff_ne.mpr hne'
      simp only [get?, hother, Option.bind_some, List.lookup_cons, hbeq]
      exact lookup_filter (p := (· ≠ place)) (by simpa using hne') files.entries

end ColumnFormula.Files
