import DtoScaffold.Proofs.Property.Tokens
import DtoScaffold.Proofs.Text.MaximalRuns
import Mathlib.Data.List.Forall2
import Mathlib.Data.List.Induction
import Mathlib.Data.List.Nodup

/-!
# The grammar of property lists

A token denotes a property, or there is a first rule of the grammar that it violates. Main
statement: a text is read exactly when all its tokens denote properties, and the list then holds
each name where it was first seen with the type that was last written for it. Otherwise the first
token at fault is reported with its place.
-/
namespace DtoScaffold

open Text

/-- The text is a type without a colon, a colon, and an identifier other than `this`. -/
structure Denotes (token : String) (property : Property) : Prop where
  whole : token = property.type ++ ":" ++ property.name
  colonless : ':' ∉ property.type.toList
  typed : property.type ≠ ""
  identifier : isIdentifier property.name = true
  notReserved : property.name ≠ "this"

/-- The first rule of the grammar that a text violates; each rule is about texts that keep the rules
before it. -/
inductive Violates (token : String) : TokenFault → Prop
  | missingColon (colonless : ':' ∉ token.toList) : Violates token .missingColon
  | missingType (name : String) (whole : token = ":" ++ name) : Violates token .missingType
  | invalidName (type name : String) (whole : token = type ++ ":" ++ name)
      (colonless : ':' ∉ type.toList) (typed : type ≠ "")
      (invalid : isIdentifier name = false ∨ name = "this") : Violates token (.invalidName name)

namespace Property

theorem ofToken_ok_iff_denotes {token : String} {property : Property} :
    ofToken token = .ok property ↔ Denotes token property := by
  rw [ofToken_ok_iff, isPropertyName_iff]
  constructor
  · rintro ⟨whole, colonless, typed, identifier, notReserved⟩
    exact ⟨whole, colonless, typed, identifier, notReserved⟩
  · rintro ⟨whole, colonless, typed, identifier, notReserved⟩
    exact ⟨whole, colonless, typed, identifier, notReserved⟩

private theorem isPropertyName_eq_false_iff {name : String} :
    isPropertyName name = false ↔ isIdentifier name = false ∨ name = "this" := by
  rw [isPropertyName, Bool.and_eq_false_iff, bne_eq_false_iff_eq]

theorem ofToken_error_iff {token : String} {fault : TokenFault} :
    ofToken token = .error fault ↔ Violates token fault := by
  have colon : String.singleton ':' = ":" := rfl
  constructor
  · intro refused
    -- The checks come in the order of the rules, so a fault tells that those before it are kept.
    unfold ofToken at refused
    split at refused
    next uncut =>
      cases refused
      exact .missingColon (cutAt?_eq_none_iff.mp uncut)
    next type name cut =>
      obtain ⟨colonless, whole⟩ := cutAt?_eq_some_iff.mp cut
      rw [colon] at whole
      split at refused
      next empty =>
        cases refused
        have untyped : type = "" := by simpa using empty
        exact .missingType name (by simpa [untyped] using whole)
      next filled =>
        split at refused
        next invalid =>
          cases refused
          exact .invalidName type name whole colonless (by simpa using filled)
            (isPropertyName_eq_false_iff.mp (by simpa using invalid))
        · cases refused
  · intro violated
    cases violated with
    | missingColon colonless => simp [ofToken, cutAt?_eq_none_iff.mpr colonless]
    | missingType name whole =>
      have cut : cutAt? ':' token = some ("", name) :=
        cutAt?_eq_some_iff.mpr ⟨by simp, by simpa [colon] using whole⟩
      simp [ofToken, cut]
    | invalidName type name whole colonless typed invalid =>
      have cut : cutAt? ':' token = some (type, name) := cutAt?_eq_some_iff.mpr ⟨colonless, whole⟩
      simp [ofToken, cut, typed, isPropertyName_eq_false_iff.mpr invalid]

end Property

/-- A text denotes a property or violates a rule. -/
theorem denotes_or_violates (token : String) :
    (∃ property, Denotes token property) ∨ ∃ fault, Violates token fault := by
  cases read : Property.ofToken token with
  | ok property => exact Or.inl ⟨property, Property.ofToken_ok_iff_denotes.mp read⟩
  | error fault => exact Or.inr ⟨fault, Property.ofToken_error_iff.mp read⟩

namespace PropertyList

/-- What the tokens of a text denote, in their order. -/
abbrev Denoted (tokens : List Run) (found : List Property) : Prop :=
  List.Forall₂ (fun token property => Denotes token.text property) tokens found

private theorem exists_denoted {tokens : List Run}
    (good : ∀ token ∈ tokens, ∃ property, Denotes token.text property) :
    ∃ found, Denoted tokens found := by
  induction tokens with
  | nil => exact ⟨[], .nil⟩
  | cons token rest ih =>
    obtain ⟨property, first⟩ := good token List.mem_cons_self
    obtain ⟨found, later⟩ := ih fun other member => good other (List.mem_cons_of_mem _ member)
    exact ⟨property :: found, .cons first later⟩

private theorem insertToken_of_denotes {token : Run} {property : Property}
    (denotes : Denotes token.text property) (list : PropertyList) :
    insertToken list token = .ok (list.insert property) := by
  rw [insertToken, Property.ofToken_ok_iff_denotes.mpr denotes]

private theorem insertToken_of_violates {token : Run} {fault : TokenFault}
    (violated : Violates token.text fault) (list : PropertyList) :
    insertToken list token = .error (.malformed token.text token.offset fault) := by
  rw [insertToken, Property.ofToken_error_iff.mpr violated]

theorem foldlM_insertToken {tokens : List Run} {found : List Property}
    (denoted : Denoted tokens found) (start : PropertyList) :
    tokens.foldlM insertToken start = .ok (found.foldl insert start) := by
  induction denoted generalizing start with
  | nil => rfl
  | @cons token property rest others first _ ih =>
    rw [List.foldlM_cons, insertToken_of_denotes first]
    exact ih (start.insert property)

/-- Reading stops at the first token that violates a rule, whatever comes after it. -/
theorem foldlM_insertToken_of_violates {earlier : List Run} {found : List Property} {token : Run}
    {fault : TokenFault} (denoted : Denoted earlier found) (violated : Violates token.text fault)
    (later : List Run) (start : PropertyList) :
    (earlier ++ token :: later).foldlM insertToken start =
      .error (.malformed token.text token.offset fault) := by
  rw [List.foldlM_append, foldlM_insertToken denoted]
  change List.foldlM insertToken (found.foldl insert start) (token :: later) = _
  rw [List.foldlM_cons, insertToken_of_violates violated]
  rfl

/-- Every failure is about one of the tokens and a rule that it violates. -/
theorem exists_violates_of_foldlM_error {tokens : List Run} {start : PropertyList}
    {error : PropertyError} (failed : tokens.foldlM insertToken start = .error error) :
    ∃ token ∈ tokens, ∃ fault, Violates token.text fault ∧
      error = .malformed token.text token.offset fault := by
  induction tokens generalizing start with
  | nil => cases failed
  | cons token rest ih =>
    rw [List.foldlM_cons] at failed
    rcases denotes_or_violates token.text with ⟨property, denotes⟩ | ⟨fault, violated⟩
    · rw [insertToken_of_denotes denotes] at failed
      obtain ⟨token, later, violation⟩ := ih failed
      exact ⟨token, List.mem_cons_of_mem _ later, violation⟩
    · rw [insertToken_of_violates violated] at failed
      cases failed
      exact ⟨token, List.mem_cons_self, fault, violated, rfl⟩

theorem get?_of_mem {list : PropertyList} (distinct : list.names.Nodup) {property : Property}
    (member : property ∈ list.entries) : list.get? property.name = some property := by
  unfold names at distinct
  unfold get?
  generalize list.entries = entries at distinct member ⊢
  induction entries with
  | nil => cases member
  | cons entry rest ih =>
    obtain ⟨new, distinct⟩ := List.nodup_cons.mp distinct
    rcases List.mem_cons.mp member with rfl | later
    · simp
    · have other : entry.name ≠ property.name := by
        intro same
        exact new (same ▸ List.mem_map_of_mem later)
      rw [List.find?_cons_of_neg (by simpa using other)]
      exact ih distinct later

/-- The list holds each name of the properties once, where it was first seen, and with it the
property that was last of this name. -/
structure Collects (list : PropertyList) (found : List Property) : Prop where
  distinct : list.names.Nodup
  firstSeen : list.names = (found.map Property.name).eraseDups
  lastWritten : ∀ property ∈ list.entries, ∃ earlier later,
    found = earlier ++ property :: later ∧ property.name ∉ later.map Property.name

theorem collects_empty : Collects .empty [] :=
  ⟨List.nodup_nil, rfl, by simp [empty]⟩

private theorem eraseDups_append_singleton (names : List String) (name : String) :
    (names ++ [name]).eraseDups =
      if name ∈ names then names.eraseDups else names.eraseDups ++ [name] := by
  rw [List.eraseDups_append, List.removeAll]
  by_cases taken : name ∈ names <;> simp [taken, List.eraseDups_cons]

theorem Collects.insert {list : PropertyList} {found : List Property}
    (collects : list.Collects found) (property : Property) :
    (list.insert property).Collects (found ++ [property]) := by
  have names : (list.insert property).names =
      ((found ++ [property]).map Property.name).eraseDups := by
    rw [names_insert, List.map_append, List.map_singleton, eraseDups_append_singleton,
      collects.firstSeen]
    simp only [List.mem_eraseDups]
  have distinct : (list.insert property).names.Nodup := by
    rw [names_insert]
    split
    · exact collects.distinct
    next new =>
      exact List.Nodup.append collects.distinct (List.nodup_singleton _)
        (List.disjoint_singleton.mpr new)
  refine ⟨distinct, names, fun entry member => ?_⟩
  -- The inserted property is the last of its name, so every other entry has another name.
  have found_entry := get?_of_mem distinct member
  rw [get?_insert] at found_entry
  split at found_entry
  next same =>
    cases found_entry
    exact ⟨found, [], rfl, by simp⟩
  next other =>
    obtain ⟨earlier, later, split, unwritten⟩ :=
      collects.lastWritten entry (List.mem_of_find?_eq_some found_entry)
    refine ⟨earlier, later ++ [property], by simp [split], ?_⟩
    simpa using ⟨by simpa using unwritten, Ne.symm other⟩

theorem collects_foldl_insert (found : List Property) :
    (found.foldl insert empty).Collects found := by
  induction found using List.reverseRecOn with
  | nil => exact collects_empty
  | append_singleton earlier property ih =>
    rw [List.foldl_append]
    exact ih.insert property

/-- A text of tokens that all denote properties is read as the list that collects them; otherwise
the first token that violates a rule is reported with the rule, at the byte where it stands. -/
theorem parse_follows_grammar (raw : String) :
    ∃ tokens, MaximalRuns isBlank raw.toList tokens ∧
      ((∀ token ∈ tokens, ∃ property, Denotes token.text property) →
        ∃ found list, Denoted tokens found ∧ list.Collects found ∧ parse raw = .ok list) ∧
      ∀ earlier token later, tokens = earlier ++ token :: later →
        (∀ other ∈ earlier, ∃ property, Denotes other.text property) →
        (¬ ∃ property, Denotes token.text property) →
        ∃ fault, Violates token.text fault ∧
          parse raw = .error (.malformed token.text token.offset fault) ∧
          token.offset = (String.ofList token.before).utf8ByteSize ∧
          raw.toUTF8.extract token.offset (token.offset + token.text.utf8ByteSize) =
            token.text.toUTF8 := by
  refine ⟨runs isBlank raw, maximalRuns_runs isBlank raw, ?_, ?_⟩
  · intro good
    obtain ⟨found, denoted⟩ := exists_denoted good
    exact ⟨found, _, denoted, collects_foldl_insert found, foldlM_insertToken denoted empty⟩
  · intro earlier token later split good bad
    obtain ⟨found, denoted⟩ := exists_denoted good
    obtain ⟨fault, violated⟩ := (denotes_or_violates token.text).resolve_left bad
    have member : token ∈ runs isBlank raw := by simp [split]
    refine ⟨fault, violated, ?_, rfl, extract_offset member⟩
    rw [parse, split]
    exact foldlM_insertToken_of_violates denoted violated later empty

end PropertyList

end DtoScaffold
