import DtoScaffold.Config
import DtoScaffold.Proofs.Json.Object

/-!
# Configurations read as they were written

A configuration is written as an object with one member for each container. Its containers are put
back into their order one by one, so they come back when they were in it. Main statement: the
written form of a configuration with its containers in order is read as this configuration.
-/
namespace DtoScaffold.Config

open Json

/-- The containers stand in ascending order of their names, each name once. -/
def Ordered (containers : List (String × ContainerEntry)) : Prop :=
  containers.Pairwise fun earlier later => earlier.1 < later.1

theorem placeEntry_last {name : String} {entry : ContainerEntry}
    {containers : List (String × ContainerEntry)}
    (last : ∀ other ∈ containers, other.1 < name) :
    placeEntry name entry containers = containers ++ [(name, entry)] := by
  induction containers with
  | nil => rfl
  | cons other rest ih =>
    have before := last other (by simp)
    have notBehind : ¬ name < other.1 := String.lt_asymm before
    have different : (name == other.1) = false := by
      apply beq_false_of_ne
      rintro rfl
      exact String.lt_irrefl _ before
    rw [placeEntry, if_neg notBehind, different,
      ih fun others inside => last others (List.mem_cons_of_mem _ inside)]
    rfl

/-! ### One container -/

theorem gap_blank : Gap [' '] := by
  simp [Gap, isSpace]

/-- A text behind the colon of its field. -/
theorem readsBack_textField {ρ : Type} (set : String → ρ) (value : String) :
    ReadsBack (fun cs => (textValue cs).map fun (value, rest) => (set value, rest))
      (' ' :: (quoted value).toList) (set value) :=
  (readsBack_textValue gap_blank value).map set

/-- What is written behind the name of a container. -/
def entryChars (depth : Nat) (entry : ContainerEntry) : List Char :=
  objectChars (lineGap (depth + 1)) (lineGap depth)
    [memberChars "path" (' ' :: (quoted entry.path).toList),
      memberChars "namespace" (' ' :: (quoted entry.namespaceText).toList)]

theorem readsBack_entry (depth : Nat) (entry : ContainerEntry) :
    ReadsBack (record entryFields ⟨none, none⟩) (' ' :: entryChars depth entry)
      ⟨some entry.path, some entry.namespaceText⟩ := by
  have pathField : entryFields.find? (·.key == "path") = some entryFields[0] := rfl
  have namespaceField : entryFields.find? (·.key == "namespace") = some entryFields[1] := rfl
  have path : ReadsBack (fieldMember entryFields "path" ⟨none, none⟩)
      (':' :: ' ' :: (quoted entry.path).toList) ⟨some entry.path, none⟩ :=
    readsBack_fieldMember pathField rfl
      (readsBack_textField (fun value => EntryDraft.mk (some value) none) entry.path)
  have namespaceText : ReadsBack (fieldMember entryFields "namespace" ⟨some entry.path, none⟩)
      (':' :: ' ' :: (quoted entry.namespaceText).toList)
      ⟨some entry.path, some entry.namespaceText⟩ :=
    readsBack_fieldMember namespaceField rfl
      (readsBack_textField (fun value => EntryDraft.mk (some entry.path) (some value))
        entry.namespaceText)
  exact readsBack_record gap_blank (gap_lineGap (depth + 1)) (gap_lineGap depth)
    (.one path (.one namespaceText (.none _)))

theorem readsBack_containerMember (depth : Nat) (name : String) (entry : ContainerEntry)
    (containers : List (String × ContainerEntry)) :
    ReadsBack (containerMember name containers) (':' :: ' ' :: entryChars depth entry)
      (placeEntry name entry containers) := by
  intro after
  have behind : colon (':' :: ' ' :: entryChars depth entry ++ after) =
      .ok (' ' :: entryChars depth entry ++ after) := by rfl
  rw [containerMember, behind]
  simp only [bind, Except.bind, readsBack_entry depth entry after, EntryDraft.complete]
  rfl

/-! ### Whole configurations -/

/-- What is written behind the key of the containers. -/
def containersChars (depth : Nat) (containers : List (String × ContainerEntry)) : List Char :=
  objectChars (lineGap (depth + 1)) (lineGap depth)
    (containers.map fun (name, entry) => memberChars name (' ' :: entryChars (depth + 1) entry))

/-- Each container is put behind those that stand before it. -/
theorem takes_containers (depth : Nat) {placed rest : List (String × ContainerEntry)}
    (ordered : Ordered (placed ++ rest)) :
    Takes containerMember placed
      (rest.map fun (name, entry) => memberChars name (' ' :: entryChars depth entry))
      (placed ++ rest) := by
  -- What is placed grows at its end, where each of the next names belongs.
  induction rest generalizing placed with
  | nil =>
    rw [List.append_nil]
    exact .none placed
  | cons first rest ih =>
    obtain ⟨name, entry⟩ := first
    have last : ∀ other ∈ placed, other.1 < name := by
      intro other inside
      exact (List.pairwise_append.mp ordered).2.2 other inside _ List.mem_cons_self
    have member := readsBack_containerMember depth name entry placed
    rw [placeEntry_last last] at member
    rw [List.append_cons] at ordered ⊢
    exact .one member (ih ordered)

theorem readsBack_containers (depth : Nat) {containers : List (String × ContainerEntry)}
    (ordered : Ordered containers) :
    ReadsBack (object containerMember []) (' ' :: containersChars depth containers) containers := by
  have unplaced : Ordered ([] ++ containers) := ordered
  exact readsBack_object gap_blank (gap_lineGap (depth + 1)) (gap_lineGap depth)
    (takes_containers (depth + 1) unplaced)

theorem toList_indented_toJson (config : Config) :
    config.toJson.indented.toList = objectChars (lineGap 1) (lineGap 0)
      [memberChars "containers" (' ' :: containersChars 1 config.containers),
        memberChars "rootDirectory" (' ' :: (quoted config.rootDirectory).toList),
        memberChars "assemblerDomainType" (' ' :: (quoted config.assemblerDomainType).toList)] := by
  simp [Value.indented, toJson, toList_indentedAt_object, indentedAt_text, containersChars,
    entryChars, Function.comp_def]

/-- A configuration whose containers are in order is read as it was written. -/
theorem ofJson_indented {config : Config} (ordered : Ordered config.containers) :
    ofJson config.toJson.indented = .ok config := by
  obtain ⟨containers, rootDirectory, assemblerDomainType⟩ := config
  have containersField : fields.find? (·.key == "containers") = some fields[0] := rfl
  have rootField : fields.find? (·.key == "rootDirectory") = some fields[1] := rfl
  have domainTypeField : fields.find? (·.key == "assemblerDomainType") = some fields[2] := rfl
  -- The keys differ, so each field is still unset when its member comes.
  have first : ReadsBack (fieldMember fields "containers" ⟨none, none, none⟩)
      (':' :: ' ' :: containersChars 1 containers) ⟨some containers, none, none⟩ :=
    readsBack_fieldMember containersField rfl
      ((readsBack_containers 1 ordered).map fun value => Draft.mk (some value) none none)
  have second : ReadsBack (fieldMember fields "rootDirectory" ⟨some containers, none, none⟩)
      (':' :: ' ' :: (quoted rootDirectory).toList)
      ⟨some containers, some rootDirectory, none⟩ :=
    readsBack_fieldMember rootField rfl
      (readsBack_textField (fun value => Draft.mk (some containers) (some value) none)
        rootDirectory)
  have third : ReadsBack
      (fieldMember fields "assemblerDomainType" ⟨some containers, some rootDirectory, none⟩)
      (':' :: ' ' :: (quoted assemblerDomainType).toList)
      ⟨some containers, some rootDirectory, some assemblerDomainType⟩ :=
    readsBack_fieldMember domainTypeField rfl
      (readsBack_textField
        (fun value => Draft.mk (some containers) (some rootDirectory) (some value))
        assemblerDomainType)
  have whole := readsBack_record gap_nil (gap_lineGap 1) (gap_lineGap 0)
    (.one first (.one second (.one third (.none _))))
  apply document_of_readsBack
  rw [toList_indented_toJson]
  exact whole.map Draft.complete

theorem fromUTF8?_toUTF8 (text : String) : String.fromUTF8? text.toUTF8 = some text := by
  have valid : text.toUTF8.IsValidUTF8 := text.isValidUTF8
  rw [String.fromUTF8?, dif_pos valid]
  rfl

/-- The file of a configuration whose containers are in order is loaded as this configuration. -/
theorem load_indented {config : Config} (ordered : Ordered config.containers) :
    load (some config.toJson.indented.toUTF8) = .ok config := by
  simp only [load, fromUTF8?_toUTF8, ofJson_indented ordered]
  rfl

end DtoScaffold.Config
