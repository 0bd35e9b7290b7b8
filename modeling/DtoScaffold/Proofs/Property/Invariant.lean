import DtoScaffold.Proofs.Property.Adding

/-!
# What every property list keeps

A list starts empty or as it was read, and grows by additions, some of which are refused. A refused
addition changes nothing and a successful one appends, so no addition gives a name a second entry or
lets in a name that no property can have. Main statement: this holds of the list after any additions,
so a name finds its one entry, and the dialog accepts a name for the list exactly when every addition
under it succeeds.
-/
namespace DtoScaffold

open Text

/-- What the dialog says to a name when an addition under it is refused. -/
def Rejection.ofRefusal : PropertyError → Rejection
  | .malformed token _ _ => .invalidPropertyName token
  | .duplicate name => .duplicateProperty name

namespace PropertyList

theorem addOrKeep_of_error {list : PropertyList} {property : Property} {error : PropertyError}
    (refused : list.add property.name property.type = .error error) :
    list.addOrKeep property = list := by
  rw [addOrKeep, refused]

theorem addOrKeep_of_ok {list longer : PropertyList} {property : Property}
    (added : list.add property.name property.type = .ok longer) :
    list.addOrKeep property = longer ∧ longer.entries = list.entries ++ [property] := by
  obtain ⟨_, same⟩ := add_ok_iff.mp added
  exact ⟨by rw [addOrKeep, added], by rw [same]⟩

theorem WellNamed.addOrKeep {list : PropertyList} (wellNamed : list.WellNamed)
    (property : Property) : (list.addOrKeep property).WellNamed := by
  cases outcome : list.add property.name property.type with
  | error error => rwa [addOrKeep_of_error outcome]
  | ok longer =>
    rw [(addOrKeep_of_ok outcome).1]
    exact wellNamed.add outcome

theorem WellNamed.foldl_addOrKeep {list : PropertyList} (wellNamed : list.WellNamed)
    (additions : List Property) : (additions.foldl PropertyList.addOrKeep list).WellNamed := by
  induction additions generalizing list with
  | nil => exact wellNamed
  | cons property rest ih => exact ih (wellNamed.addOrKeep property)

/-- Where names do not repeat, a name finds the entry that bears it. -/
theorem get?_eq_some_iff {list : PropertyList} (distinct : list.names.Nodup) {name : String}
    {property : Property} :
    list.get? name = some property ↔ property ∈ list.entries ∧ property.name = name := by
  constructor
  · intro found
    exact ⟨List.mem_of_find?_eq_some found, by simpa using List.find?_some found⟩
  · rintro ⟨member, rfl⟩
    exact get?_of_mem distinct member

/-- The dialog checks a name as an addition does, whatever the type. -/
theorem acceptPropertyName_eq_add (list : PropertyList) (answer type : String) :
    acceptPropertyName list answer =
      ((list.add (trim answer) type).mapError .ofRefusal).map fun _ => trim answer := by
  by_cases valid : isPropertyName (trim answer) = true
  · by_cases taken : list.contains (trim answer) = true
    · simp [acceptPropertyName, add, valid, taken, Except.mapError, Except.map,
        Rejection.ofRefusal]
    · simp [acceptPropertyName, add, valid, taken, Except.mapError, Except.map]
  · simp [acceptPropertyName, add, valid, Except.mapError, Except.map, Rejection.ofRefusal]

theorem acceptPropertyName_ok_iff_add {list : PropertyList} {answer name : String} :
    acceptPropertyName list answer = .ok name ↔
      name = trim answer ∧ ∀ type, ∃ longer, list.add name type = .ok longer := by
  rw [acceptPropertyName_ok_iff]
  constructor
  · rintro ⟨rfl, admitted⟩
    exact ⟨rfl, fun type => ⟨_, add_of_admits admitted type⟩⟩
  · rintro ⟨rfl, added⟩
    -- The type plays no part in what is admitted, so any will do.
    obtain ⟨longer, added⟩ := added ""
    exact ⟨rfl, (add_ok_iff.mp added).1⟩

theorem acceptPropertyName_error_iff_add {list : PropertyList} {answer type : String}
    {rejection : Rejection} :
    acceptPropertyName list answer = .error rejection ↔
      ∃ error, list.add (trim answer) type = .error error ∧ rejection = .ofRefusal error := by
  rw [acceptPropertyName_eq_add list answer type]
  cases list.add (trim answer) type with
  | ok longer => simp [Except.mapError, Except.map]
  | error error => simp [Except.mapError, Except.map, eq_comm]

/-- After any additions to an empty list or to one that was read, each name is a property name and
stands once in the list, and finds its entry there. A further addition is refused and changes
nothing, or it appends. The dialog accepts a name exactly when it can be added, and says why not
when it cannot. -/
theorem additions_keep_names_apart {start : PropertyList}
    (origin : start = empty ∨ ∃ raw, parse raw = .ok start) (additions : List Property) :
    let list := additions.foldl addOrKeep start
    list.names.Nodup ∧ (∀ name ∈ list.names, isIdentifier name = true ∧ name ≠ "this") ∧
      (∀ name property, list.get? name = some property ↔
        property ∈ list.entries ∧ property.name = name) ∧
      (∀ name, list.contains name = true ↔ name ∈ list.names) ∧
      (∀ property error, list.add property.name property.type = .error error →
        list.addOrKeep property = list) ∧
      (∀ property longer, list.add property.name property.type = .ok longer →
        list.addOrKeep property = longer ∧ longer.entries = list.entries ++ [property]) ∧
      (∀ answer name, acceptPropertyName list answer = .ok name ↔
        name = trim answer ∧ ∀ type, ∃ longer, list.add name type = .ok longer) ∧
      ∀ answer type rejection, acceptPropertyName list answer = .error rejection ↔
        ∃ error, list.add (trim answer) type = .error error ∧ rejection = .ofRefusal error := by
  intro list
  have started : start.WellNamed := by
    rcases origin with rfl | ⟨raw, read⟩
    · exact wellNamed_empty
    · exact wellNamed_of_parse read
  have wellNamed : list.WellNamed := started.foldl_addOrKeep additions
  refine ⟨wellNamed.distinct, ?_, ?_, ?_, ?_, ?_, ?_, ?_⟩
  · exact fun name member => isPropertyName_iff.mp (wellNamed.valid name member)
  · exact fun name property => get?_eq_some_iff wellNamed.distinct
  · exact fun name => contains_iff
  · exact fun property error refused => addOrKeep_of_error refused
  · exact fun property longer added => addOrKeep_of_ok added
  · exact fun answer name => acceptPropertyName_ok_iff_add
  · exact fun answer type rejection => acceptPropertyName_error_iff_add

/-- Of three additions to a list that was read two are refused. -/
theorem additions_keep_names_apart_title :
    let start : PropertyList := ⟨[⟨"title", "string"⟩]⟩
    let additions : List Property := [⟨"title", "text"⟩, ⟨"note", "string"⟩, ⟨"this", "string"⟩]
    let list := additions.foldl addOrKeep start
    parse "string:title" = .ok start ∧
      list.entries = [⟨"title", "string"⟩, ⟨"note", "string"⟩] ∧ list.names.Nodup ∧
      list.get? "note" = some ⟨"note", "string"⟩ ∧
      acceptPropertyName list " note " = .error (.duplicateProperty "note") := by
  intro start additions list
  have read : parse "string:title" = .ok start := by decide +kernel
  obtain ⟨distinct, _, finds, _, _, _, _, rejects⟩ :=
    additions_keep_names_apart (.inr ⟨_, read⟩) additions
  have found := (finds "note" ⟨"note", "string"⟩).mpr ⟨by decide, rfl⟩
  have refused := (rejects " note " "string" (.duplicateProperty "note")).mpr
    ⟨.duplicate "note", by decide, rfl⟩
  exact ⟨read, by decide, distinct, found, refused⟩

end PropertyList

end DtoScaffold
