import DtoScaffold.Proofs.Path
import DtoScaffold.Proofs.Storage.Tree

/-!
# Files that are written over

A file is written to the place that its path denotes, or to a free place where there is none yet. In
both cases the path denotes this place afterwards. Main statement: what was written to a path that
ends in a plain name is read from it.
-/
namespace DtoScaffold.Disk

open Text

variable {disk after : Disk} {place : Location}

/-- The path ends in a name of its own: in no separator and in no name that goes elsewhere. -/
structure EndsInName (path : Path) (last : String) : Prop where
  noSlash : path.endsInSlash = false
  names : namesOf path = (namesOf path).dropLast ++ [last]
  notDot : last ≠ "."
  notDots : last ≠ ".."

theorem endsInName_push (base : Path) {name : String} (isName : IsName name) (notDot : name ≠ ".")
    (notDots : name ≠ "..") : EndsInName (base.push ⟨name⟩) name where
  noSlash := by
    have open_ := Path.endsInSlash_append_name isName base.lead
    rwa [← Path.text_push base isName] at open_
  names := by
    have names : namesOf (base.push ⟨name⟩) = namesOf base ++ [name] := by
      simp [namesOf, Path.runs_push base isName, Run.text]
    rw [names, List.dropLast_concat]
  notDot := notDot
  notDots := notDots

/-- Something is there where a path leads that ends in a name. -/
theorem EndsInName.entry {path : Path} {last : String} (ends : EndsInName path last)
    (located : disk.locate path = .ok place) : (disk.entry? place).isSome := by
  obtain ⟨_, leads⟩ := locate_ok_iff.mp located
  rw [ends.noSlash, if_neg Bool.false_ne_true, List.append_nil, ends.names] at leads
  obtain ⟨directory, _, step⟩ := leads_append_iff.mp leads
  -- The walk ends with the step into the last name, which looks the name up.
  cases step with
  | here dot => exact absurd dot ends.notDot
  | up dots => exact absurd dots ends.notDots
  | down _ _ _ found later =>
    cases later
    exact (lookUp_ok_iff.mp found).2

/-- A file is written to the place that its path denotes afterwards. -/
theorem overwrite_ok {path : Path} {last : String} {content : ByteArray}
    (ends : EndsInName path last) (written : disk.overwrite path content = (.ok (), after)) :
    ∃ place, after.locate path = .ok place ∧ disk.Sets after place (some (.file content)) := by
  unfold overwrite at written
  split at written
  next place located =>
    -- There is a file at the place already, since no directory is written over.
    split at written
    · cases written
    next noDirectory =>
      cases written
      obtain ⟨entry, held⟩ := Option.isSome_iff_exists.mp (ends.entry located)
      cases entry with
      | directory =>
        simp [hasDirectory, held, DiskEntry.isDirectory] at noDirectory
      | file old =>
        have sets := sets_replaceEntry held (.file content)
        have directories := sets.hasDirectoriesOf (by simp [held])
        exact ⟨place, locate_of_directories directories sets.current located (by simp [sets.here]),
          sets⟩
  next =>
    split at written
    next place free =>
      split at written
      · cases written
      · cases written
        -- A new entry changes no directory, so the path leads to it.
        obtain ⟨nothing, directory, name, endsIn, rfl⟩ := freePlace_ok free
        have sets := sets_addEntry nothing (.file content)
        have directories := sets.hasDirectoriesOf (by simp [nothing])
        exact ⟨_, endsIn.locate ends.noSlash directories sets.current (by simp [sets.here]), sets⟩
    · cases written
  · cases written

/-- What was written to a path is read from it. -/
theorem read_of_overwrite {path : Path} {last : String} {content : ByteArray}
    (ends : EndsInName path last) (written : disk.overwrite path content = (.ok (), after)) :
    after.read path = .ok content := by
  obtain ⟨place, located, sets⟩ := overwrite_ok ends written
  exact read_ok_iff.mpr ⟨place, located, sets.here⟩

theorem taken_of_read {path : Path} {content : ByteArray} (found : disk.read path = .ok content) :
    disk.taken path = true := by
  obtain ⟨place, located, _⟩ := read_ok_iff.mp found
  rw [taken, located]
  rfl

end DtoScaffold.Disk
