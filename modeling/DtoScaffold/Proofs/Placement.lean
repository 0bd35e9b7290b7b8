import DtoScaffold.Generator
import DtoScaffold.Proofs.Path

/-!
# Files and classes

The path of a file and the qualified name of its class are made on their own: the path pushes the
segments of the root directory and the directories of the class to the base path, the namespace
joins the same segments behind those of the container. Both lose nothing of the list of segments, so
the file and the class determine each other.
-/
namespace DtoScaffold

open Text

namespace ClassIdentity

theorem solid_of_mem_segments {identity : ClassIdentity} {segment : String}
    (member : segment ∈ identity.segments) : Solid isSlash segment :=
  Text.solid_of_mem_segments member

theorem solid_of_mem_directories {identity : ClassIdentity} {directory : String}
    (member : directory ∈ identity.directories) : Solid isSlash directory :=
  solid_of_mem_segments (List.dropLast_subset _ member)

theorem gapless_className (identity : ClassIdentity) :
    ∀ c ∈ identity.className.toList, isSlash c = false := by
  unfold className
  cases last : identity.segments.getLast? with
  -- An identity without segments has the empty class name.
  | none => simp
  | some segment => exact (solid_of_mem_segments (List.mem_of_getLast? last)).gapless

end ClassIdentity

/-- The directories of a class below the base path of its container. -/
def directoriesBelow (identity : ClassIdentity) (rootDirectory : String) : List String :=
  segments rootDirectory ++ identity.directories

theorem solid_of_mem_directoriesBelow {identity : ClassIdentity} {rootDirectory directory : String}
    (member : directory ∈ directoriesBelow identity rootDirectory) : Solid isSlash directory := by
  rcases List.mem_append.mp member with above | below
  · exact solid_of_mem_segments above
  · exact ClassIdentity.solid_of_mem_directories below

theorem namespaceOf_eq (identity : ClassIdentity) (container : Container) (rootDirectory : String) :
    namespaceOf identity container rootDirectory = "\\".intercalate
      (container.namespaceSegments ++ directoriesBelow identity rootDirectory) := by
  rw [namespaceOf, directoriesBelow, List.append_assoc]

/-- Within a container the namespace tells the directories. -/
theorem namespaceOf_eq_iff (container : Container) (first second : ClassIdentity)
    (firstRoot secondRoot : String) :
    namespaceOf first container firstRoot = namespaceOf second container secondRoot ↔
      directoriesBelow first firstRoot = directoriesBelow second secondRoot := by
  have solid (identity : ClassIdentity) (root : String) :
      ∀ piece ∈ container.namespaceSegments ++ directoriesBelow identity root,
        Solid (· == '\\') piece := by
    intro piece member
    rcases List.mem_append.mp member with inContainer | below
    · obtain ⟨run, inside, rfl⟩ := List.mem_map.mp inContainer
      exact solid_of_mem_runs inside
    · apply (solid_of_mem_directoriesBelow below).narrow
      intro c backslash
      simp [isSlash, beq_iff_eq.mp backslash]
  rw [namespaceOf_eq, namespaceOf_eq,
    intercalate_inj '\\' rfl rfl (solid first firstRoot) (solid second secondRoot)]
  exact List.append_right_inj _

namespace ArtifactKind

theorem gapless_className (kind : ArtifactKind) (identity : ClassIdentity) :
    ∀ c ∈ (kind.className identity.className).toList, isSlash c = false := by
  have gapless := identity.gapless_className
  cases kind with
  | main => exact gapless
  | assembler =>
    have suffixGapless : ∀ c ∈ Php.assemblerSuffix.toList, isSlash c = false := by
      simp [Php.assemblerSuffix, isSlash]
    intro c inside
    rw [className, String.toList_append] at inside
    rcases List.mem_append.mp inside with stem | suffix
    · exact gapless c stem
    · exact suffixGapless c suffix

theorem isName_fileName (kind : ArtifactKind) (identity : ClassIdentity) :
    IsName (kind.fileName identity.className) := by
  constructor
  · simp [fileName, fileExtension]
  · have endGapless : ∀ c ∈ ("." ++ fileExtension).toList, (c == '/') = false := by
      simp [fileExtension]
    intro c inside
    rw [fileName, String.append_assoc, String.toList_append] at inside
    rcases List.mem_append.mp inside with stem | ending
    · have notSlash := kind.gapless_className identity c stem
      simp only [isSlash, Bool.or_eq_false_iff] at notSlash
      exact notSlash.1
    · exact endGapless c ending

/-- The file name tells the class name. -/
theorem fileName_eq_iff (firstKind secondKind : ArtifactKind) (first second : String) :
    firstKind.fileName first = secondKind.fileName second ↔
      firstKind.className first = secondKind.className second := by
  simp [fileName, String.append_left_inj]

end ArtifactKind

theorem placeOf_eq (container : Container) (identity : ClassIdentity)
    (rootDirectory fileName : String) :
    placeOf container identity rootDirectory fileName =
      container.basePath.pushAll (directoriesBelow identity rootDirectory ++ [fileName]) :=
  rfl

theorem isName_of_mem_directoriesBelow {identity : ClassIdentity} {rootDirectory directory : String}
    (member : directory ∈ directoriesBelow identity rootDirectory) : IsName directory := by
  apply (solid_of_mem_directoriesBelow member).narrow
  intro c slash
  simp [isSlash, beq_iff_eq.mp slash]

/-- Within a container two artifacts have the same path text exactly when they have the same
namespace and the same class name. -/
theorem place_text_eq_iff_class_eq (container : Container) (first second : ClassIdentity)
    (firstRoot secondRoot : String) (firstKind secondKind : ArtifactKind) :
    (placeOf container first firstRoot (firstKind.fileName first.className)).text =
        (placeOf container second secondRoot (secondKind.fileName second.className)).text ↔
      namespaceOf first container firstRoot = namespaceOf second container secondRoot ∧
        firstKind.className first.className = secondKind.className second.className := by
  have areNames (identity : ClassIdentity) (root : String) (kind : ArtifactKind) :
      ∀ name ∈ directoriesBelow identity root ++ [kind.fileName identity.className],
        IsName name := by
    intro name member
    rcases List.mem_append.mp member with directory | file
    · exact isName_of_mem_directoriesBelow directory
    · rw [List.mem_singleton.mp file]
      exact kind.isName_fileName identity
  rw [placeOf_eq, placeOf_eq, namespaceOf_eq_iff, ← ArtifactKind.fileName_eq_iff]
  rw [Path.text_pushAll_inj container.basePath (by simp) (by simp)
    (areNames first firstRoot firstKind) (areNames second secondRoot secondKind)]
  constructor
  · intro same
    -- Both lists end in one file name, so they divide at the same place.
    obtain ⟨directories, files⟩ := List.append_inj' same rfl
    exact ⟨directories, by simpa using files⟩
  · rintro ⟨directories, files⟩
    rw [directories, files]

end DtoScaffold
