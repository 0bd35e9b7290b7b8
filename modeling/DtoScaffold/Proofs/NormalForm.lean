import DtoScaffold.Container
import DtoScaffold.Proofs.Reference
import DtoScaffold.Proofs.Text.Identifier
import DtoScaffold.Proofs.Text.Pieces

/-!
# Normal forms of references and namespaces

Slashes of either kind may stand in references and namespaces, singly or in rows, and at the ends.
A class is kept with single slashes and a namespace with single backslashes between the segments,
and nothing around them. Main statement: the segments of a normal form are those of the text that it
was made from, so it is its own normal form, and the shortcut of a class that was read is read as
the class again.
-/
namespace DtoScaffold

open Text

namespace ClassIdentity

/-- A class is determined by its container and the place that it keeps. -/
theorem ofPath_relativeName (container path : String) :
    ofPath container (ofPath container path).relativeName = ofPath container path := by
  have split : Text.segments (ofPath container path).relativeName = Text.segments path :=
    segments_ofPath container path
  rw [ofPath, split, ← ofPath]

theorem directories_append_className {identity : ClassIdentity} (placed : identity.segments ≠ []) :
    identity.directories ++ [identity.className] = identity.segments := by
  rw [directories, className, List.getLast?_eq_some_getLast placed, Option.getD_some,
    List.dropLast_append_getLast placed]

/-- The place of a class that was read consists of identifiers and slashes. -/
theorem isBlank_of_mem_relativeName {container path : String}
    (valid : ∀ segment ∈ Text.segments path, isIdentifier segment = true) :
    ∀ c ∈ (ofPath container path).relativeName.toList, isBlank c = false := by
  have slash : ∀ c ∈ "/".toList, isBlank c = false := by simp [isBlank]
  rw [ofPath, String.toList_intercalate]
  apply forall_mem_intercalate slash
  rw [List.forall_mem_map]
  exact fun segment member c inside =>
    isBlank_of_isIdentifierRest (isIdentifierRest_of_mem (valid segment member) inside)

/-- The shortcut of a class that was read is read as the class again. -/
theorem parse_shortcut {raw : String} {identity : ClassIdentity}
    (denoted : parse raw = .ok identity) : parse identity.shortcut = .ok identity := by
  have referable := referable_of_parse denoted
  obtain ⟨container, path, _, _, placed, valid, rfl⟩ :=
    ofReference_ok_iff.mp (mapError_ok_iff.mp denoted)
  have split : Text.segments (ofPath container path).relativeName = Text.segments path :=
    segments_ofPath container path
  have bareEnd : ∀ c ∈ (ofPath container path).relativeName.toList.getLast?, isBlank c = false :=
    fun c last => isBlank_of_mem_relativeName valid c (List.mem_of_mem_getLast? last)
  rw [← split] at placed valid
  have read : parse (ofPath container path).shortcut =
      .ok (ofPath container (ofPath container path).relativeName) :=
    parse_of_referable referable placed valid bareEnd
  rwa [ofPath_relativeName] at read

end ClassIdentity

/-- Segments that backslashes join are divided again at slashes of either kind. -/
theorem segments_normalizeNamespace (text : String) :
    segments (normalizeNamespace text) = segments text :=
  runs_intercalate '\\' (by decide) (by rfl) fun _ member => solid_of_mem_segments member

theorem normalizeNamespace_normalizeNamespace (text : String) :
    normalizeNamespace (normalizeNamespace text) = normalizeNamespace text := by
  rw [normalizeNamespace, segments_normalizeNamespace, ← normalizeNamespace]

/-- The namespace of a container holds no `/`, so backslashes are all that divides it. -/
theorem Container.namespaceSegments_named (name : String) (basePath : Path) (text : String) :
    (named name basePath text).namespaceSegments = segments text := by
  apply runs_intercalate '\\' (by decide) (by rfl)
  intro segment member
  apply (solid_of_mem_segments member).narrow
  intro c backslash
  simp [isSlash, beq_iff_eq.mp backslash]

/-- Normal forms stay as they are when they are read again. A class that was read is read from its
shortcut and from the text that displays it. A class of any path is rebuilt from the place that it
keeps, and its directories and its name are the segments of the place. A normalised namespace is its
own normal form, and its segments are the pieces that stood between the slashes of the text. -/
theorem normal_forms_read_again :
    (∀ raw identity, ClassIdentity.parse raw = .ok identity →
      ClassIdentity.parse identity.shortcut = .ok identity ∧
        ClassIdentity.parse (toString identity) = .ok identity) ∧
      (∀ container path,
        let identity := ClassIdentity.ofPath container path
        ClassIdentity.ofPath identity.container identity.relativeName = identity ∧
          (identity.segments ≠ [] →
            identity.directories ++ [identity.className] = identity.segments)) ∧
      ∀ text, normalizeNamespace (normalizeNamespace text) = normalizeNamespace text ∧
        ∀ name basePath, (Container.named name basePath text).namespaceSegments =
          pieces isSlash text := by
  refine ⟨?_, ?_, ?_⟩
  · intro raw identity denoted
    have read := ClassIdentity.parse_shortcut denoted
    exact ⟨read, read⟩
  · intro container path
    exact ⟨ClassIdentity.ofPath_relativeName container path,
      ClassIdentity.directories_append_className⟩
  · intro text
    refine ⟨normalizeNamespace_normalizeNamespace text, fun name basePath => ?_⟩
    rw [Container.namespaceSegments_named, segments_eq_pieces]

/-- The container's name and the segments stay, while the slashes become single ones. -/
theorem normal_forms_read_again_blog :
    let identity : ClassIdentity := ⟨"Acme Blog", "Blog/Admin/PostDTO"⟩
    ClassIdentity.parse " Acme Blog:\\Blog/\\Admin//PostDTO" = .ok identity ∧
      ClassIdentity.parse identity.shortcut = .ok identity ∧ identity.segments ≠ [] ∧
      identity.directories ++ [identity.className] = identity.segments := by
  intro identity
  have read : ClassIdentity.parse " Acme Blog:\\Blog/\\Admin//PostDTO" = .ok identity := by
    decide +kernel
  have placed : identity.segments ≠ [] := by decide +kernel
  have built : ClassIdentity.ofPath "Acme Blog" "Blog/Admin/PostDTO" = identity := by decide +kernel
  obtain ⟨rereads, rebuilds, _⟩ := normal_forms_read_again
  have whole := (rebuilds "Acme Blog" "Blog/Admin/PostDTO").2
  rw [built] at whole
  exact ⟨read, (rereads _ _ read).1, placed, whole placed⟩

end DtoScaffold
