import DtoScaffold.Json.Forms
import DtoScaffold.Proofs.Json.Object

/-!
# Containers read as they were written

A container is written as an object with a text for each of its fields. Reading takes the texts as
they stand and never puts a namespace into its normal form. Main statement: the compact form of a
container is read as this container, whatever characters its texts hold.
-/
namespace DtoScaffold.Container

open Json

/-- A container is read from its compact form, whatever follows. -/
theorem readsBack_compact (container : Container) :
    ReadsBack Container.read container.toJson.compact.toList container := by
  obtain ⟨name, ⟨basePath⟩, rootNamespace⟩ := container
  have nameField : fields.find? (·.key == "name") = some fields[0] := rfl
  have pathField : fields.find? (·.key == "base_path") = some fields[1] := rfl
  have namespaceField : fields.find? (·.key == "namespace_prefix") = some fields[2] := rfl
  have value (text : String) : ReadsBack textValue (quoted text).toList text := by
    simpa only [List.nil_append] using readsBack_textValue gap_nil text
  -- The keys differ, so each field is still unset when its member comes.
  have first : ReadsBack (fieldMember fields "name" ⟨none, none, none⟩)
      (':' :: (quoted name).toList) ⟨some name, none, none⟩ :=
    readsBack_fieldMember nameField rfl
      ((value name).map fun text => Draft.mk (some text) none none)
  have second : ReadsBack (fieldMember fields "base_path" ⟨some name, none, none⟩)
      (':' :: (quoted basePath).toList) ⟨some name, some basePath, none⟩ :=
    readsBack_fieldMember pathField rfl
      ((value basePath).map fun text => Draft.mk (some name) (some text) none)
  have third : ReadsBack (fieldMember fields "namespace_prefix" ⟨some name, some basePath, none⟩)
      (':' :: (quoted rootNamespace).toList) ⟨some name, some basePath, some rootNamespace⟩ :=
    readsBack_fieldMember namespaceField rfl
      ((value rootNamespace).map fun text => Draft.mk (some name) (some basePath) (some text))
  have whole := readsBack_record gap_nil gap_nil gap_nil
    (.one first (.one second (.one third (.none _))))
  intro after
  simp only [toJson, toList_compact_object, compact_text, List.map_cons, List.map_nil]
  rw [Container.read, ← List.nil_append (objectChars _ _ _), whole after]
  rfl

/-- The compact form of a container is read as this container: its name, its path and its namespace
are the texts that were written, and so the segments of the namespace are the same. -/
theorem compact_form_reads_back (container : Container) :
    ∃ back, ofJson container.toJson.compact = .ok back ∧ back.name = container.name ∧
      back.basePath.text = container.basePath.text ∧
      back.rootNamespace = container.rootNamespace ∧
      back.namespaceSegments = container.namespaceSegments :=
  ⟨container, document_of_readsBack (readsBack_compact container), rfl, rfl, rfl, rfl⟩

end DtoScaffold.Container
