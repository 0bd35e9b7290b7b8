import DtoScaffold.Proofs.Property.Spelling

/-!
# Property lists one behind the other

Insertions of properties of different names do not disturb each other, as long as the places of the
names are settled, and of two insertions of one name only the later counts. So it makes no
difference whether properties are inserted into a list at once, or collected in a list of their own
first and merged from there. Main statement: two texts with blanks between them are read as the
merge of what each of them is read as. A fault in the first text is reported as if nothing followed,
a fault in the second with its place moved by what stands before it.
-/
namespace DtoScaffold

open Text

namespace PropertyList

/-! ## Merging lists -/

private theorem insertInto_insertInto_of_same {earlier later : Property}
    (same : earlier.name = later.name) (entries : List Property) :
    insertInto later (insertInto earlier entries) = insertInto later entries := by
  induction entries with
  | nil => simp [insertInto, same]
  | cons entry rest ih =>
    by_cases taken : entry.name = later.name
    · simp [insertInto, same, taken]
    · simp [insertInto, same, taken, ih]

/-- Of two insertions of one name only the later counts. -/
theorem insert_insert_of_same {earlier later : Property} (same : earlier.name = later.name)
    (list : PropertyList) : (list.insert earlier).insert later = list.insert later :=
  congrArg PropertyList.mk (insertInto_insertInto_of_same same list.entries)

private theorem insertInto_comm {settled other : Property} (different : settled.name ≠ other.name)
    {entries : List Property} (taken : settled.name ∈ entries.map Property.name) :
    insertInto settled (insertInto other entries) =
      insertInto other (insertInto settled entries) := by
  induction entries with
  | nil => cases taken
  | cons entry rest ih =>
    by_cases first : entry.name = settled.name
    · simp [insertInto, first, different]
    · by_cases second : entry.name = other.name
      · simp [insertInto, second, Ne.symm different]
      · have later : settled.name ∈ rest.map Property.name := by
          simpa [Ne.symm first] using taken
        simp [insertInto, first, second, ih later]

/-- A name that has its place already is inserted before or after another one. -/
theorem insert_comm {list : PropertyList} {settled other : Property}
    (different : settled.name ≠ other.name) (taken : settled.name ∈ list.names) :
    (list.insert other).insert settled = (list.insert settled).insert other :=
  congrArg PropertyList.mk (insertInto_comm different taken)

theorem mem_names_insert_iff {list : PropertyList} {property : Property} {name : String} :
    name ∈ (list.insert property).names ↔ name ∈ list.names ∨ name = property.name := by
  rw [names_insert]
  split
  next taken =>
    constructor
    · exact Or.inl
    · rintro (old | rfl)
      · exact old
      · exact taken
  · rw [List.mem_append, List.mem_singleton]

theorem insert_foldl_insert {found : List Property} {list : PropertyList} {settled : Property}
    (taken : settled.name ∈ list.names) (new : settled.name ∉ found.map Property.name) :
    (found.foldl insert list).insert settled = found.foldl insert (list.insert settled) := by
  induction found generalizing list with
  | nil => rfl
  | cons other rest ih =>
    rw [List.map_cons, List.mem_cons, not_or] at new
    have stillTaken : settled.name ∈ (list.insert other).names :=
      mem_names_insert_iff.mpr (Or.inl taken)
    rw [List.foldl_cons, List.foldl_cons, ih stillTaken new.2, insert_comm new.1 taken]

/-- Insert the properties of another list in their order. -/
def merge (list other : PropertyList) : PropertyList :=
  other.entries.foldl insert list

private theorem foldl_insertInto {entries : List Property}
    (distinct : (entries.map Property.name).Nodup) (list : PropertyList) (property : Property) :
    (insertInto property entries).foldl insert list =
      (entries.foldl insert list).insert property := by
  induction entries generalizing list with
  | nil => rfl
  | cons entry rest ih =>
    obtain ⟨new, distinct⟩ := List.nodup_cons.mp distinct
    by_cases same : entry.name = property.name
    · -- The property takes the entry's place here, and comes after the rest there.
      have taken : property.name ∈ (list.insert entry).names :=
        mem_names_insert_iff.mpr (Or.inr same.symm)
      rw [insertInto, if_pos (beq_iff_eq.mpr same), List.foldl_cons, List.foldl_cons,
        insert_foldl_insert taken (same ▸ new), insert_insert_of_same same]
    · rw [insertInto, if_neg (by simpa using same), List.foldl_cons, List.foldl_cons,
        ih distinct]

theorem merge_insert {other : PropertyList} (distinct : other.names.Nodup) (list : PropertyList)
    (property : Property) : list.merge (other.insert property) = (list.merge other).insert property :=
  foldl_insertInto distinct list property

/-- Properties that were collected in a list of their own are merged as if they came one by one. -/
theorem merge_foldl_insert (list : PropertyList) (found : List Property) :
    list.merge (found.foldl insert empty) = found.foldl insert list := by
  induction found using List.reverseRecOn with
  | nil => rfl
  | append_singleton earlier property ih =>
    have distinct := (collects_foldl_insert earlier).distinct
    rw [List.foldl_append, List.foldl_append, ← ih]
    exact merge_insert distinct list property

/-- The names of a merge are those of the first list, and behind them the new ones. -/
theorem names_merge {other : PropertyList} (distinct : other.names.Nodup) (list : PropertyList) :
    (list.merge other).names = list.names ++ other.names.filter (· ∉ list.names) := by
  rcases other with ⟨found⟩
  change (found.map Property.name).Nodup at distinct
  change (found.foldl insert list).names =
    list.names ++ (found.map Property.name).filter (· ∉ list.names)
  induction found generalizing list with
  | nil => simp
  | cons property rest ih =>
    obtain ⟨new, distinct⟩ := List.nodup_cons.mp distinct
    rw [List.foldl_cons, ih _ distinct, names_insert, List.map_cons]
    by_cases taken : property.name ∈ list.names
    · rw [if_pos taken, List.filter_cons_of_neg (by simpa using taken)]
    · -- The rest does not name the property again, so its place does not matter to the rest.
      have sameRest : (rest.map Property.name).filter (· ∉ list.names ++ [property.name]) =
          (rest.map Property.name).filter (· ∉ list.names) := by
        apply List.filter_congr
        intro name later
        have other : name ≠ property.name := fun same => new (same ▸ later)
        simp [other]
      rw [if_neg taken, List.filter_cons_of_pos (by simpa using taken), sameRest,
        List.append_assoc, List.singleton_append]

/-- A merge has the type of the second list for each name that the second list holds. -/
theorem get?_merge {other : PropertyList} (distinct : other.names.Nodup) (list : PropertyList)
    (name : String) : (list.merge other).get? name = (other.get? name).or (list.get? name) := by
  rcases other with ⟨found⟩
  change (found.map Property.name).Nodup at distinct
  change (found.foldl insert list).get? name =
    (found.find? (·.name == name)).or (list.get? name)
  induction found generalizing list with
  | nil => rfl
  | cons property rest ih =>
    obtain ⟨new, distinct⟩ := List.nodup_cons.mp distinct
    rw [List.foldl_cons, ih _ distinct, get?_insert]
    by_cases same : property.name = name
    · have absent : rest.find? (·.name == name) = none := by
        rw [List.find?_eq_none]
        intro other later named
        exact new (List.mem_map.mpr ⟨other, later, by simpa [same] using named⟩)
      simp [same, absent]
    · simp [same]

/-! ## Reading two texts -/

/-- A token denotes the same property wherever it stands. -/
theorem Denoted.behind {tokens : List Run} {found : List Property} (denoted : Denoted tokens found)
    (front : List Char) : Denoted (tokens.map (Run.behind front)) found :=
  List.forall₂_map_left_iff.mpr denoted

/-- The tokens of a text all denote properties, or there is a first one that violates a rule. -/
theorem denoted_or_first_fault (tokens : List Run) :
    (∃ found, Denoted tokens found) ∨
      ∃ earlier found token fault later, tokens = earlier ++ token :: later ∧
        Denoted earlier found ∧ Violates token.text fault := by
  induction tokens with
  | nil => exact Or.inl ⟨[], .nil⟩
  | cons token rest ih =>
    rcases denotes_or_violates token.text with ⟨property, denotes⟩ | ⟨fault, violated⟩
    · rcases ih with ⟨found, denoted⟩ | ⟨earlier, found, bad, fault, later, rfl, denoted, violated⟩
      · exact Or.inl ⟨property :: found, .cons denotes denoted⟩
      · exact Or.inr ⟨token :: earlier, property :: found, bad, fault, later, rfl,
          .cons denotes denoted, violated⟩
    · exact Or.inr ⟨[], [], token, fault, rest, rfl, .nil, violated⟩

/-- What is read from a text is what its tokens say. -/
theorem parse_cases (raw : String) :
    (∃ found, Denoted (runs isBlank raw) found ∧ parse raw = .ok (found.foldl insert empty)) ∨
      ∃ earlier found token fault later, runs isBlank raw = earlier ++ token :: later ∧
        Denoted earlier found ∧ Violates token.text fault ∧
        parse raw = .error (.malformed token.text token.offset fault) := by
  rcases denoted_or_first_fault (runs isBlank raw) with
    ⟨found, denoted⟩ | ⟨earlier, found, token, fault, later, split, denoted, violated⟩
  · exact Or.inl ⟨found, denoted, foldlM_insertToken denoted empty⟩
  · refine Or.inr ⟨earlier, found, token, fault, later, split, denoted, violated, ?_⟩
    rw [parse, split]
    exact foldlM_insertToken_of_violates denoted violated later empty

theorem exists_denoted_of_parse {raw : String} {list : PropertyList}
    (read : parse raw = .ok list) :
    ∃ found, Denoted (runs isBlank raw) found ∧ list = found.foldl insert empty := by
  rcases parse_cases raw with ⟨found, denoted, collected⟩ | ⟨_, _, _, _, _, _, _, _, reported⟩
  · rw [collected] at read
    exact ⟨found, denoted, (Except.ok.inj read).symm⟩
  · rw [reported] at read
    cases read

theorem exists_first_fault_of_parse {raw : String} {error : PropertyError}
    (failed : parse raw = .error error) :
    ∃ earlier found token fault later, runs isBlank raw = earlier ++ token :: later ∧
      Denoted earlier found ∧ Violates token.text fault ∧
      error = .malformed token.text token.offset fault := by
  rcases parse_cases raw with
    ⟨_, _, read⟩ | ⟨earlier, found, token, fault, later, split, denoted, violated, reported⟩
  · rw [read] at failed
    cases failed
  · rw [reported] at failed
    exact ⟨earlier, found, token, fault, later, split, denoted, violated,
      (Except.error.inj failed).symm⟩

section
variable {gap : String} (filled : gap ≠ "") (blank : ∀ c ∈ gap.toList, isBlank c = true)

include filled blank

/-- A fault in the first text is reported whatever follows the text. -/
theorem parse_append_of_error {first : String} {error : PropertyError}
    (failed : parse first = .error error) (second : String) :
    parse (first ++ gap ++ second) = .error error := by
  obtain ⟨earlier, found, token, fault, later, split, denoted, violated, rfl⟩ :=
    exists_first_fault_of_parse failed
  rw [parse, runs_append_gaps filled blank, split, List.append_assoc, List.cons_append]
  exact foldlM_insertToken_of_violates denoted violated _ empty

/-- A fault in the second text is reported behind what stands before the text. -/
theorem parse_append_of_ok_of_error {first second : String} {list : PropertyList}
    {error : PropertyError} (read : parse first = .ok list) (failed : parse second = .error error) :
    ∃ token offset fault, error = .malformed token offset fault ∧
      parse (first ++ gap ++ second) =
        .error (.malformed token (offset + (first ++ gap).utf8ByteSize) fault) := by
  obtain ⟨found, denoted, _⟩ := exists_denoted_of_parse read
  obtain ⟨earlier, others, token, fault, later, split, denotedEarlier, violated, rfl⟩ :=
    exists_first_fault_of_parse failed
  refine ⟨token.text, token.offset, fault, rfl, ?_⟩
  -- The token is the first one at fault in the whole text too.
  have upToFault := List.rel_append denoted (denotedEarlier.behind (first ++ gap).toList)
  have stillViolated : Violates (token.behind (first ++ gap).toList).text fault := violated
  rw [parse, runs_append_gaps filled blank, split, List.map_append, List.map_cons,
    ← List.append_assoc, ← Run.offset_behind]
  exact foldlM_insertToken_of_violates upToFault stillViolated _ empty

theorem parse_append_of_ok {first second : String} {list other : PropertyList}
    (read : parse first = .ok list) (readOther : parse second = .ok other) :
    parse (first ++ gap ++ second) = .ok (list.merge other) := by
  obtain ⟨found, denoted, rfl⟩ := exists_denoted_of_parse read
  obtain ⟨later, denotedLater, rfl⟩ := exists_denoted_of_parse readOther
  have whole := List.rel_append denoted (denotedLater.behind (first ++ gap).toList)
  rw [merge_foldl_insert, ← List.foldl_append, parse, runs_append_gaps filled blank]
  exact foldlM_insertToken whole empty

end

/-- Two texts with blanks between them are read one after the other. The properties of the second
are inserted into the list of the first: a name of both keeps its place and takes the second type,
and new names come behind. -/
theorem parse_append {gap : String} (filled : gap ≠ "")
    (blank : ∀ c ∈ gap.toList, isBlank c = true) (first second : String) :
    (∀ error, parse first = .error error → parse (first ++ gap ++ second) = .error error) ∧
      (∀ list error, parse first = .ok list → parse second = .error error →
        ∃ token offset fault, error = .malformed token offset fault ∧
          parse (first ++ gap ++ second) =
            .error (.malformed token (offset + (first ++ gap).utf8ByteSize) fault)) ∧
      ∀ list other, parse first = .ok list → parse second = .ok other →
        parse (first ++ gap ++ second) = .ok (list.merge other) ∧
          (list.merge other).names = list.names ++ other.names.filter (· ∉ list.names) ∧
          ∀ name, (list.merge other).get? name = (other.get? name).or (list.get? name) := by
  refine ⟨?_, ?_, ?_⟩
  · exact fun error failed => parse_append_of_error filled blank failed second
  · exact fun list error read failed => parse_append_of_ok_of_error filled blank read failed
  · intro list other read readOther
    have distinct := (wellNamed_of_parse readOther).distinct
    exact ⟨parse_append_of_ok filled blank read readOther, names_merge distinct list,
      get?_merge distinct list⟩

/-- Behind a wide blank the second type of the title is read, and a fault is found at its byte. -/
theorem parse_append_title :
    let gap := "\u3000\n"
    let list : PropertyList := ⟨[⟨"title", "string"⟩, ⟨"tag", "\\Tag"⟩]⟩
    let other : PropertyList := ⟨[⟨"note", "é"⟩, ⟨"title", "text"⟩]⟩
    gap ≠ "" ∧ (∀ c ∈ gap.toList, isBlank c = true) ∧
      parse "string:title \\Tag:tag" = .ok list ∧ parse "é:note text:title" = .ok other ∧
      parse ("string:title \\Tag:tag" ++ gap ++ "é:note text:title") =
        .ok ⟨[⟨"title", "text"⟩, ⟨"tag", "\\Tag"⟩, ⟨"note", "é"⟩]⟩ ∧
      parse "é:note :title" = .error (.malformed ":title" 8 .missingType) ∧
      parse ("string:title \\Tag:tag" ++ gap ++ "é:note :title") =
        .error (.malformed ":title" 33 .missingType) := by
  intro gap list other
  have blank : ∀ c ∈ gap.toList, isBlank c = true := by simp [gap, isBlank]
  have read : parse "string:title \\Tag:tag" = .ok list := by decide +kernel
  have readOther : parse "é:note text:title" = .ok other := by decide +kernel
  have failed : parse "é:note :title" = .error (.malformed ":title" 8 .missingType) := by
    decide +kernel
  obtain ⟨_, _, both⟩ := parse_append (by decide) blank "string:title \\Tag:tag" "é:note text:title"
  obtain ⟨_, moved, _⟩ := parse_append (by decide) blank "string:title \\Tag:tag" "é:note :title"
  obtain ⟨token, offset, fault, same, reported⟩ := moved list _ read failed
  cases same
  exact ⟨by decide, blank, read, readOther, (both list other read readOther).1, failed, reported⟩

end PropertyList

end DtoScaffold
