import DtoScaffold.Proofs.Property.Lists
import DtoScaffold.Proofs.Text.Identifier
import DtoScaffold.Property.Parser

/-!
# Lists read from tokens

Every property of a list that was read from a text is what one of the text's tokens denotes. Its
type is therefore a text of its own without blanks and colons, and like every list that the two
ways of extending one lead to, the list holds each name once and property names only.
-/
namespace DtoScaffold

open Text

/-- A text is the token of a property when its first colon stands between a type and a name. -/
theorem Property.ofToken_ok_iff {token : String} {property : Property} :
    Property.ofToken token = .ok property ↔
      token = property.token ∧ ':' ∉ property.type.toList ∧ property.type ≠ "" ∧
        isPropertyName property.name = true := by
  have colon : String.singleton ':' = ":" := by rfl
  constructor
  · intro denoted
    unfold Property.ofToken at denoted
    split at denoted
    · cases denoted
    next type name cut =>
      obtain ⟨absent, whole⟩ := cutAt?_eq_some_iff.mp cut
      split at denoted
      · cases denoted
      next filled =>
        split at denoted
        · cases denoted
        next valid =>
          cases denoted
          rw [colon] at whole
          exact ⟨whole, absent, by simpa using filled, by simpa using valid⟩
  · rintro ⟨rfl, absent, filled, valid⟩
    have cut : cutAt? ':' property.token = some (property.type, property.name) :=
      cutAt?_append absent
    simp [Property.ofToken, cut, filled, valid]

theorem isPropertyName_iff {name : String} :
    isPropertyName name = true ↔ isIdentifier name = true ∧ name ≠ "this" := by
  simp [isPropertyName]

theorem solid_of_isPropertyName {name : String} (valid : isPropertyName name = true) :
    Solid isBlank name :=
  solid_of_isIdentifier (fun _ inside => isBlank_of_isIdentifierRest inside)
    (isPropertyName_iff.mp valid).1

namespace PropertyList

private theorem mem_insertInto {property entry : Property} {entries : List Property}
    (member : entry ∈ insertInto property entries) : entry = property ∨ entry ∈ entries := by
  induction entries with
  | nil => exact Or.inl (List.mem_singleton.mp member)
  | cons first rest ih =>
    unfold insertInto at member
    split at member
    · rcases List.mem_cons.mp member with same | later
      · exact Or.inl same
      · exact Or.inr (List.mem_cons_of_mem _ later)
    · rcases List.mem_cons.mp member with same | later
      · exact Or.inr (same ▸ List.mem_cons_self)
      · exact (ih later).imp_right (List.mem_cons_of_mem _)

theorem mem_insert {list : PropertyList} {property entry : Property}
    (member : entry ∈ (list.insert property).entries) : entry = property ∨ entry ∈ list.entries :=
  mem_insertInto member

/-- What holds of the empty list and stays true when a token's property is inserted holds of every
list that is read from a text. -/
theorem parse_induction {Holds : PropertyList → Prop} {raw : String} {list : PropertyList}
    (base : Holds .empty)
    (step : ∀ shorter property, Holds shorter →
      (∃ token ∈ runs isBlank raw, Property.ofToken token.text = .ok property) →
      Holds (shorter.insert property))
    (read : parse raw = .ok list) : Holds list := by
  unfold parse at read
  -- The induction is on the tokens still to come, with the list read so far in place of the
  -- empty one.
  generalize runs isBlank raw = tokens at step read
  generalize empty = start at base read
  induction tokens generalizing start with
  | nil =>
    cases read
    exact base
  | cons token rest ih =>
    rw [List.foldlM_cons] at read
    cases denoted : Property.ofToken token.text with
    | error fault =>
      simp only [insertToken, denoted] at read
      cases read
    | ok property =>
      simp only [insertToken, denoted] at read
      have grown := step start property base ⟨token, List.mem_cons_self, denoted⟩
      refine ih ?_ _ grown read
      rintro shorter other holds ⟨later, member, denotes⟩
      exact step shorter other holds ⟨later, List.mem_cons_of_mem _ member, denotes⟩

/-- Each property of a list comes from a token of the text that the list was read from. -/
theorem exists_token_of_mem {raw : String} {list : PropertyList} {property : Property}
    (read : parse raw = .ok list) (member : property ∈ list.entries) :
    ∃ token ∈ runs isBlank raw, Property.ofToken token.text = .ok property := by
  revert property
  apply parse_induction _ _ read
  · intro property member
    cases member
  · intro shorter inserted holds denoted entry member
    rcases mem_insert member with rfl | old
    · exact denoted
    · exact holds old

theorem solid_type {raw : String} {list : PropertyList} {property : Property}
    (read : parse raw = .ok list) (member : property ∈ list.entries) :
    Solid isBlank property.type := by
  obtain ⟨token, inText, denoted⟩ := exists_token_of_mem read member
  obtain ⟨whole, _, filled, _⟩ := Property.ofToken_ok_iff.mp denoted
  refine ⟨by simpa using filled, fun c inside => ?_⟩
  apply (solid_of_mem_runs inText).gapless
  simp [whole, Property.token, inside]

/-- Each name stands once in the list, and every name is a property name. -/
structure WellNamed (list : PropertyList) : Prop where
  distinct : list.names.Nodup
  valid : ∀ name ∈ list.names, isPropertyName name = true

theorem wellNamed_empty : WellNamed .empty :=
  ⟨List.nodup_nil, by simp [names, empty]⟩

theorem WellNamed.append {list longer : PropertyList} {name : String}
    (wellNamed : list.WellNamed) (longer_names : longer.names = list.names ++ [name])
    (new : name ∉ list.names) (valid : isPropertyName name = true) : longer.WellNamed := by
  constructor
  · rw [longer_names]
    apply List.nodup_append.mpr
    refine ⟨wellNamed.distinct, by simp, ?_⟩
    rintro old inside last isLast rfl
    exact new (List.mem_singleton.mp isLast ▸ inside)
  · rw [longer_names]
    intro other member
    rcases List.mem_append.mp member with old | last
    · exact wellNamed.valid other old
    · exact List.mem_singleton.mp last ▸ valid

theorem WellNamed.insert {list : PropertyList} (wellNamed : list.WellNamed) {property : Property}
    (valid : isPropertyName property.name = true) : (list.insert property).WellNamed := by
  have changed := names_insert list property
  by_cases taken : property.name ∈ list.names
  · rw [if_pos taken] at changed
    exact ⟨changed ▸ wellNamed.distinct, changed ▸ wellNamed.valid⟩
  · rw [if_neg taken] at changed
    exact wellNamed.append changed taken valid

theorem WellNamed.add {list longer : PropertyList} {name type : String}
    (wellNamed : list.WellNamed) (added : list.add name type = .ok longer) : longer.WellNamed := by
  obtain ⟨admitted, rfl⟩ := add_ok_iff.mp added
  obtain ⟨valid, absent⟩ := admits_iff.mp admitted
  have new : name ∉ list.names := by
    intro inside
    rw [contains_iff.mpr inside] at absent
    cases absent
  exact wellNamed.append (by simp [names]) new valid

theorem wellNamed_of_parse {raw : String} {list : PropertyList} (read : parse raw = .ok list) :
    list.WellNamed := by
  apply parse_induction wellNamed_empty _ read
  rintro shorter property wellNamed ⟨_, _, denoted⟩
  exact wellNamed.insert (Property.ofToken_ok_iff.mp denoted).2.2.2

/-- The lists that additions lead to from the empty list or from one that was read. An addition
that is refused leaves the list as it is. -/
inductive Reachable : PropertyList → Prop
  | empty : Reachable .empty
  | parsed {raw : String} {list : PropertyList} (read : parse raw = .ok list) : Reachable list
  | added {list longer : PropertyList} {name type : String} (reachable : Reachable list)
      (addition : list.add name type = .ok longer) : Reachable longer

theorem Reachable.wellNamed {list : PropertyList} (reachable : list.Reachable) :
    list.WellNamed := by
  induction reachable with
  | empty => exact wellNamed_empty
  | parsed read => exact wellNamed_of_parse read
  | added _ addition ih => exact ih.add addition

end PropertyList

end DtoScaffold
