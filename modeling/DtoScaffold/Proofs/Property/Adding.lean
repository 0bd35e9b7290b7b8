import DtoScaffold.Proofs.Property.Spelling

/-!
# Adding properties and reading them

Properties can be added to a list one after the other, or written as tokens and read. Both come to
the same list as long as no name repeats. At a repeated name they part: the addition is refused and
the first type stays, reading goes on and the last type stays. The names are the same in both lists,
in the order in which they were first seen.
-/
namespace DtoScaffold

open Text

namespace PropertyList

/-- The list after an addition. An addition that is refused leaves the list as it is. -/
def addOrKeep (list : PropertyList) (property : Property) : PropertyList :=
  match list.add property.name property.type with
  | .ok longer => longer
  | .error _ => list

/-- Add properties one after the other, until an addition is refused. -/
def addAll (list : PropertyList) (found : List Property) : Except PropertyError PropertyList :=
  found.foldlM (fun list property => list.add property.name property.type) list

theorem add_of_new {list : PropertyList} {property : Property}
    (valid : isPropertyName property.name = true) (new : property.name ∉ list.names) :
    list.add property.name property.type = .ok ⟨list.entries ++ [property]⟩ := by
  apply add_of_admits
  rw [← contains_iff] at new
  exact admits_iff.mpr ⟨valid, by simpa using new⟩

theorem add_of_taken {list : PropertyList} {name : String} (valid : isPropertyName name = true)
    (taken : name ∈ list.names) (type : String) :
    list.add name type = .error (.duplicate name) := by
  simp [add, valid, contains_iff.mpr taken]

theorem addAll_append_cons {list longer : PropertyList} {earlier : List Property}
    (added : list.addAll earlier = .ok longer) (property : Property) (later : List Property) :
    list.addAll (earlier ++ property :: later) =
      longer.add property.name property.type >>= (·.addAll later) := by
  rw [addAll, List.foldlM_append, ← addAll, added]
  rfl

theorem addAll_of_nodup {found : List Property}
    (valid : ∀ property ∈ found, isPropertyName property.name = true)
    (distinct : (found.map Property.name).Nodup) : empty.addAll found = .ok ⟨found⟩ := by
  induction found using List.reverseRecOn with
  | nil => rfl
  | append_singleton earlier property ih =>
    obtain ⟨new, distinctEarlier⟩ := nodup_names_concat.mp distinct
    have validEarlier : ∀ other ∈ earlier, isPropertyName other.name = true :=
      fun other member => valid other (List.mem_append_left _ member)
    have added := ih validEarlier distinctEarlier
    have notInList : property.name ∉ names ⟨earlier⟩ := new
    -- The list after the earlier additions is known whole, so the last one only appends to it.
    rw [addAll_append_cons added, add_of_new (valid property (by simp)) notInList]
    rfl

/-- The first name that repeats is refused, whatever comes after it. -/
theorem addAll_of_repeated {earlier : List Property}
    (valid : ∀ property ∈ earlier, isPropertyName property.name = true)
    (distinct : (earlier.map Property.name).Nodup) {repeated : Property}
    (taken : repeated.name ∈ earlier.map Property.name) (later : List Property) :
    empty.addAll (earlier ++ repeated :: later) = .error (.duplicate repeated.name) := by
  -- Nothing is asked of the repeated property itself: its name is valid as an earlier one.
  have validName : isPropertyName repeated.name = true := by
    obtain ⟨property, member, same⟩ := List.mem_map.mp taken
    exact same ▸ valid property member
  have inList : repeated.name ∈ names ⟨earlier⟩ := taken
  rw [addAll_append_cons (addAll_of_nodup valid distinct), add_of_taken validName inList]
  rfl

theorem exists_first_repeated {found : List Property}
    (repeats : ¬ (found.map Property.name).Nodup) :
    ∃ earlier repeated later, found = earlier ++ repeated :: later ∧
      (earlier.map Property.name).Nodup ∧ repeated.name ∈ earlier.map Property.name := by
  induction found using List.reverseRecOn with
  | nil => exact absurd List.nodup_nil repeats
  | append_singleton others last ih =>
    -- The first repetition is among the others, or it is the last name.
    by_cases distinct : (others.map Property.name).Nodup
    · have taken : last.name ∈ others.map Property.name := by
        by_contra new
        exact repeats (nodup_names_concat.mpr ⟨new, distinct⟩)
      exact ⟨others, last, [], rfl, distinct, taken⟩
    · obtain ⟨earlier, repeated, later, rfl, first⟩ := ih distinct
      exact ⟨earlier, repeated, later ++ [last], by simp, first⟩

/-- Only properties of different names can all be added, and then they make up the list. -/
theorem addAll_ok_iff {found : List Property} {list : PropertyList}
    (valid : ∀ property ∈ found, isPropertyName property.name = true) :
    empty.addAll found = .ok list ↔ (found.map Property.name).Nodup ∧ list = ⟨found⟩ := by
  constructor
  · intro added
    by_cases distinct : (found.map Property.name).Nodup
    · rw [addAll_of_nodup valid distinct] at added
      exact ⟨distinct, (Except.ok.inj added).symm⟩
    · obtain ⟨earlier, repeated, later, rfl, distinctEarlier, taken⟩ :=
        exists_first_repeated distinct
      have validEarlier : ∀ property ∈ earlier, isPropertyName property.name = true :=
        fun property member => valid property (List.mem_append_left _ member)
      rw [addAll_of_repeated validEarlier distinctEarlier taken] at added
      cases added
  · rintro ⟨distinct, rfl⟩
    exact addAll_of_nodup valid distinct

theorem names_addOrKeep {property : Property} (valid : isPropertyName property.name = true)
    (list : PropertyList) : (list.addOrKeep property).names = (list.insert property).names := by
  rw [names_insert, addOrKeep]
  by_cases taken : property.name ∈ list.names
  · -- One keeps the old type and the other the new one, under the name that both have already.
    rw [add_of_taken valid taken, if_pos taken]
  · rw [add_of_new valid taken, if_neg taken]
    simp [names]

/-- Lists with the same names stay so, though their types part when a name repeats. -/
theorem names_foldl_addOrKeep {found : List Property}
    (valid : ∀ property ∈ found, isPropertyName property.name = true)
    {adding reading : PropertyList} (same : adding.names = reading.names) :
    (found.foldl addOrKeep adding).names = (found.foldl insert reading).names := by
  induction found generalizing adding reading with
  | nil => exact same
  | cons property rest ih =>
    apply ih fun other member => valid other (List.mem_cons_of_mem _ member)
    rw [names_addOrKeep (valid property List.mem_cons_self), names_insert, names_insert, same]

/-- Adding properties one after the other succeeds exactly when their names differ, and then their
tokens are read as the same list. Otherwise the first addition of a name that is taken is refused
and leaves the list as it is. In any case the tokens are read, and the list that is read has the
names that remain when refused additions are skipped. -/
theorem adding_agrees_with_reading {found : List Property}
    (writable : ∀ property ∈ found, property.Writable) {text : String}
    (spaced : Spaced isBlank (found.map Property.token) text) :
    ((∃ list, empty.addAll found = .ok list) ↔ (found.map Property.name).Nodup) ∧
      (∀ list, empty.addAll found = .ok list → parse text = .ok list) ∧
      (¬ (found.map Property.name).Nodup → ∃ earlier repeated later list,
        found = earlier ++ repeated :: later ∧ (earlier.map Property.name).Nodup ∧
          repeated.name ∈ earlier.map Property.name ∧ empty.addAll earlier = .ok list ∧
          list.add repeated.name repeated.type = .error (.duplicate repeated.name) ∧
          list.addOrKeep repeated = list ∧
          empty.addAll found = .error (.duplicate repeated.name)) ∧
      ∃ list, parse text = .ok list ∧ list.names = (found.map Property.name).eraseDups ∧
        list.names = (found.foldl addOrKeep empty).names := by
  have valid : ∀ property ∈ found, isPropertyName property.name = true :=
    fun property member => (writable property member).valid
  have read := parse_of_spaced writable spaced
  refine ⟨⟨?_, ?_⟩, ?_, ?_, ?_⟩
  · rintro ⟨list, added⟩
    exact ((addAll_ok_iff valid).mp added).1
  · exact fun distinct => ⟨_, addAll_of_nodup valid distinct⟩
  · intro list added
    obtain ⟨distinct, rfl⟩ := (addAll_ok_iff valid).mp added
    rw [read, foldl_insert_of_nodup distinct]
  · intro repeats
    obtain ⟨earlier, repeated, later, rfl, distinct, taken⟩ := exists_first_repeated repeats
    have validEarlier : ∀ property ∈ earlier, isPropertyName property.name = true :=
      fun property member => valid property (List.mem_append_left _ member)
    have added : empty.addAll earlier = .ok ⟨earlier⟩ := addAll_of_nodup validEarlier distinct
    have refused : add ⟨earlier⟩ repeated.name repeated.type = .error (.duplicate repeated.name) :=
      add_of_taken (valid repeated (by simp)) taken repeated.type
    have kept : addOrKeep ⟨earlier⟩ repeated = ⟨earlier⟩ := by rw [addOrKeep, refused]
    exact ⟨earlier, repeated, later, _, rfl, distinct, taken, added, refused, kept,
      addAll_of_repeated validEarlier distinct taken later⟩
  · have collects := collects_foldl_insert found
    exact ⟨_, read, collects.firstSeen, (names_foldl_addOrKeep valid rfl).symm⟩

/-- The type of a repeated name is refused by an addition and replaced by a reader. -/
theorem adding_agrees_with_reading_title :
    let found : List Property := [⟨"title", "string"⟩, ⟨"tag", "\\Tag"⟩, ⟨"title", "text"⟩]
    let text := "\u2003string:title\u00A0\n\\Tag:tag text:title"
    (∀ property ∈ found, property.Writable) ∧ Spaced isBlank (found.map Property.token) text ∧
      (¬ ∃ list, empty.addAll found = .ok list) ∧
      (found.foldl addOrKeep empty).entries = [⟨"title", "string"⟩, ⟨"tag", "\\Tag"⟩] ∧
      ∃ list, parse text = .ok list ∧ list.names = (found.foldl addOrKeep empty).names := by
  intro found text
  have writable : ∀ property ∈ found, property.Writable := by
    intro property member
    obtain rfl | rfl | rfl : property = ⟨"title", "string"⟩ ∨ property = ⟨"tag", "\\Tag"⟩ ∨
        property = ⟨"title", "text"⟩ := by simpa [found] using member
    · exact ⟨⟨by decide, by simp [isBlank]⟩, by decide, by decide⟩
    · exact ⟨⟨by decide, by simp [isBlank]⟩, by decide, by decide⟩
    · exact ⟨⟨by decide, by simp [isBlank]⟩, by decide, by decide⟩
  have third : Spaced isBlank ["text:title"] (" " ++ "text:title" ++ "") :=
    .piece (by simp [isBlank]) (.gaps (by simp)) (.inl rfl)
  have second : Spaced isBlank ["\\Tag:tag", "text:title"]
      ("\u00A0\n" ++ "\\Tag:tag" ++ " text:title") :=
    .piece (by simp [isBlank]) third (.inr ⟨' ', rfl, by decide⟩)
  have leading : ∀ c ∈ "\u2003".toList, isBlank c = true := by simp [isBlank]
  have spaced : Spaced isBlank (found.map Property.token) text :=
    .piece leading second (.inr ⟨'\u00A0', rfl, by decide⟩)
  obtain ⟨addsIff, _, _, list, read, _, names⟩ := adding_agrees_with_reading writable spaced
  refine ⟨writable, spaced, fun added => ?_, rfl, list, read, names⟩
  have distinct := addsIff.mp added
  revert distinct
  decide

end PropertyList

end DtoScaffold
