import DtoScaffold.Proofs.Checks
import DtoScaffold.Proofs.Text.Blank
import DtoScaffold.Proofs.Text.Runs
import DtoScaffold.Reference

/-!
# Classes read from references

A reference denotes a class when a container's name and identifiers stand around its first colon.
These identifiers are the segments of the class, so its own name is an identifier. The containers
that references tell are those whose name is not empty, has no colon and starts with no blank.
-/
namespace DtoScaffold.ClassIdentity

open Text

theorem segments_ofPath (container path : String) :
    (ofPath container path).segments = Text.segments path :=
  runs_intercalate '/' (by decide) (by rfl) fun _ member => solid_of_mem_segments member

/-- What a reference has to be to denote a class, and the class that it denotes. -/
theorem ofReference_ok_iff {reference : String} {identity : ClassIdentity} :
    ofReference reference = .ok identity ↔
      ∃ container path, cutAt? ':' reference = some (container, path) ∧ container ≠ "" ∧
        Text.segments path ≠ [] ∧ (∀ segment ∈ Text.segments path, isIdentifier segment = true) ∧
        identity = ofPath container path := by
  constructor
  · intro denoted
    unfold ofReference at denoted
    split at denoted
    · cases denoted
    next container path cut =>
      split at denoted
      · cases denoted
      next named =>
        split at denoted
        · cases denoted
        next placed =>
          split at denoted
          · cases denoted
          next valid =>
            cases denoted
            refine ⟨container, path, cut, by simpa using named, by simpa using placed, ?_, rfl⟩
            simpa using valid
  · rintro ⟨container, path, cut, named, placed, valid, rfl⟩
    have noneInvalid : (Text.segments path).find? (!isIdentifier ·) = none := by simpa using valid
    simp [ofReference, cut, named, placed, noneInvalid]

/-- A name that a reference can tell: no colon cuts it, and no blank in front of it is trimmed. -/
structure Referable (name : String) : Prop where
  filled : name ≠ ""
  colonless : ':' ∉ name.toList
  first : ∀ c ∈ name.toList.head?, isBlank c = false

/-- Every reference tells a container whose name it can tell. -/
theorem referable_of_parse {raw : String} {identity : ClassIdentity}
    (denoted : parse raw = .ok identity) : Referable identity.container := by
  obtain ⟨container, path, cut, named, _, _, rfl⟩ :=
    ofReference_ok_iff.mp (mapError_ok_iff.mp denoted)
  obtain ⟨colonless, whole⟩ := cutAt?_eq_some_iff.mp cut
  have filled : (trim raw).isEmpty = false := by simp [whole]
  refine ⟨named, colonless, ?_⟩
  intro c first
  -- The name stands at the start of the trimmed reference.
  apply (bare_trim filled).first c
  rwa [whole, String.toList_append, String.toList_append, List.append_assoc,
    List.head?_append_of_ne_nil _ (by simpa using named)]

/-- A name that can be told is told by each reference that places a class behind it. -/
theorem parse_of_referable {name path : String} (referable : Referable name)
    (placed : Text.segments path ≠ [])
    (valid : ∀ segment ∈ Text.segments path, isIdentifier segment = true)
    (last : ∀ c ∈ path.toList.getLast?, isBlank c = false) :
    parse (name ++ ":" ++ path) = .ok (ofPath name path) := by
  have pathFilled : path.toList ≠ [] := by
    intro empty
    rw [String.toList_eq_nil_iff.mp empty] at placed
    exact placed (by simp [Text.segments, runs, runsAfter])
  have nameFilled : name.toList ≠ [] := by simpa using referable.filled
  have trimmed : trim (name ++ ":" ++ path) = name ++ ":" ++ path := by
    apply trim_of_ends
    · intro c first
      apply referable.first c
      rwa [String.toList_append, String.toList_append, List.append_assoc,
        List.head?_append_of_ne_nil _ nameFilled] at first
    · intro c ending
      apply last c
      rwa [String.toList_append, List.getLast?_append_of_ne_nil _ pathFilled] at ending
  have cut : cutAt? ':' (name ++ ":" ++ path) = some (name, path) :=
    cutAt?_append referable.colonless
  rw [parse, trimmed, mapError_ok_iff]
  exact ofReference_ok_iff.mpr ⟨name, path, cut, referable.filled, placed, valid, rfl⟩

theorem isIdentifier_className {raw : String} {identity : ClassIdentity}
    (denoted : parse raw = .ok identity) : isIdentifier identity.className = true := by
  obtain ⟨container, path, _, _, placed, valid, rfl⟩ :=
    ofReference_ok_iff.mp (mapError_ok_iff.mp denoted)
  rw [className, segments_ofPath, List.getLast?_eq_some_getLast placed]
  exact valid _ (List.getLast_mem placed)

theorem isIdentifier_of_mem_segments {raw : String} {identity : ClassIdentity}
    (denoted : parse raw = .ok identity) {segment : String} (member : segment ∈ identity.segments) :
    isIdentifier segment = true := by
  obtain ⟨container, path, _, _, _, valid, rfl⟩ :=
    ofReference_ok_iff.mp (mapError_ok_iff.mp denoted)
  rw [segments_ofPath] at member
  exact valid segment member

/-- What ends a reference without a separator ends the name of the class that it denotes. -/
theorem suffix_className {raw : String} {identity : ClassIdentity} {ending : List Char}
    (denoted : parse raw = .ok identity) (ends : ending <:+ (trim raw).toList)
    (colonless : ':' ∉ ending) (gapless : ∀ c ∈ ending, isSlash c = false) :
    ending <:+ identity.className.toList := by
  by_cases filled : ending = []
  · rw [filled]
    exact List.nil_suffix
  obtain ⟨container, path, cut, _, _, _, rfl⟩ := ofReference_ok_iff.mp (mapError_ok_iff.mp denoted)
  have whole : (trim raw).toList = container.toList ++ ':' :: path.toList := by
    rw [(cutAt?_eq_some_iff.mp cut).2]
    simp
  have inPath : ending <:+ path.toList := by
    -- The colon does not stand in the ending, so the ending starts behind it.
    rcases List.suffix_or_suffix_of_suffix ends (whole ▸ List.suffix_append _ _) with short | long
    · rcases List.suffix_cons_iff.mp short with same | inside
      · exact absurd (same ▸ List.mem_cons_self) colonless
      · exact inside
    · exact absurd (long.subset List.mem_cons_self) colonless
  obtain ⟨earlier, last, split, inLast⟩ := exists_last_run inPath filled gapless
  rw [className, segments_ofPath, Text.segments, split]
  simpa [Run.text] using inLast

end DtoScaffold.ClassIdentity
