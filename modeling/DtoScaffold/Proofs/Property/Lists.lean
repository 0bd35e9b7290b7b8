import DtoScaffold.Answer

/-!
# Growing property lists

A list takes a new property exactly when its name is a property name that the list does not hold.
The dialog accepts a name by the same test, so a name that it accepts can always be added.
-/
namespace DtoScaffold

namespace PropertyList

/-- Whether a property of this name can be added. -/
def admits (list : PropertyList) (name : String) : Bool :=
  isPropertyName name && !list.contains name

theorem admits_iff {list : PropertyList} {name : String} :
    list.admits name = true ↔ isPropertyName name = true ∧ list.contains name = false := by
  simp [admits]

theorem add_of_admits {list : PropertyList} {name : String} (admitted : list.admits name = true)
    (type : String) : list.add name type = .ok ⟨list.entries ++ [⟨name, type⟩]⟩ := by
  obtain ⟨valid, new⟩ := admits_iff.mp admitted
  simp [add, valid, new]

theorem add_ok_iff {list longer : PropertyList} {name type : String} :
    list.add name type = .ok longer ↔
      list.admits name = true ∧ longer = ⟨list.entries ++ [⟨name, type⟩]⟩ := by
  constructor
  · intro added
    unfold add at added
    split at added
    · cases added
    next valid =>
      split at added
      · cases added
      next new =>
        cases added
        exact ⟨admits_iff.mpr ⟨by simpa using valid, by simpa using new⟩, rfl⟩
  · rintro ⟨admitted, rfl⟩
    exact add_of_admits admitted type

end PropertyList

theorem acceptPropertyName_ok_iff {list : PropertyList} {answer name : String} :
    acceptPropertyName list answer = .ok name ↔
      name = Text.trim answer ∧ list.admits name = true := by
  rw [PropertyList.admits_iff]
  constructor
  · intro accepted
    unfold acceptPropertyName at accepted
    dsimp only at accepted
    split at accepted
    · cases accepted
    next valid =>
      split at accepted
      · cases accepted
      next new =>
        cases accepted
        exact ⟨rfl, by simpa using valid, by simpa using new⟩
  · rintro ⟨rfl, valid, new⟩
    simp [acceptPropertyName, valid, new]

end DtoScaffold
