import DtoScaffold.Proofs.Property.Grammar

/-!
# Property lists spelled as tokens

A property whose type holds no blank and no colon is spelled by its token, and reading a text of
such tokens inserts the properties one after the other, whatever blanks stand around the tokens. A
list that was read holds such properties only, and each name once. So spelling it and reading it
again overwrites nothing.
-/
namespace DtoScaffold

open Text

namespace Property

/-- The property's token denotes it, and no blank divides the token. -/
structure Writable (property : Property) : Prop where
  solid : Solid isBlank property.type
  colonless : ':' ∉ property.type.toList
  valid : isPropertyName property.name = true

theorem Writable.denotes {property : Property} (writable : property.Writable) :
    Denotes property.token property :=
  ofToken_ok_iff_denotes.mp (ofToken_ok_iff.mpr
    ⟨rfl, writable.colonless, by simpa using writable.solid.nonempty, writable.valid⟩)

theorem Writable.solid_token {property : Property} (writable : property.Writable) :
    Solid isBlank property.token := by
  have name := solid_of_isPropertyName writable.valid
  -- A character of the token is in the type, or it is the colon, or it is in the name.
  refine ⟨by simp [token], fun c inside => ?_⟩
  simp only [token, String.toList_append, List.mem_append] at inside
  rcases inside with (inType | colon) | inName
  · exact writable.solid.gapless c inType
  · obtain rfl : c = ':' := by simpa using colon
    rfl
  · exact name.gapless c inName

end Property

namespace PropertyList

theorem writable_of_parse {raw : String} {list : PropertyList} {property : Property}
    (read : parse raw = .ok list) (member : property ∈ list.entries) : property.Writable := by
  obtain ⟨_, _, denoted⟩ := exists_token_of_mem read member
  obtain ⟨_, colonless, _, valid⟩ := Property.ofToken_ok_iff.mp denoted
  exact ⟨solid_type read member, colonless, valid⟩

theorem denoted_of_spaced {found : List Property} (writable : ∀ property ∈ found, property.Writable)
    {text : String} (spaced : Spaced isBlank (found.map Property.token) text) :
    Denoted (runs isBlank text) found := by
  have solid : ∀ token ∈ found.map Property.token, Solid isBlank token :=
    List.forall_mem_map.mpr fun property member => (writable property member).solid_token
  have texts : (runs isBlank text).map Run.text = found.map Property.token :=
    spaced.text_runs solid
  -- The runs and the properties are compared through the tokens, which are the texts of both.
  rw [Denoted, ← List.forall₂_map_left_iff, texts, List.forall₂_map_left_iff, List.forall₂_same]
  exact fun property member => (writable property member).denotes

/-- A text of tokens is read by inserting the properties one after the other. -/
theorem parse_of_spaced {found : List Property} (writable : ∀ property ∈ found, property.Writable)
    {text : String} (spaced : Spaced isBlank (found.map Property.token) text) :
    parse text = .ok (found.foldl insert empty) :=
  foldlM_insertToken (denoted_of_spaced writable spaced) empty

private theorem insertInto_of_new {property : Property} {entries : List Property}
    (new : property.name ∉ entries.map Property.name) :
    insertInto property entries = entries ++ [property] := by
  induction entries with
  | nil => rfl
  | cons entry rest ih =>
    rw [List.map_cons, List.mem_cons, not_or] at new
    rw [insertInto, if_neg (by simpa using Ne.symm new.1), ih new.2, List.cons_append]

theorem nodup_names_concat {earlier : List Property} {property : Property} :
    ((earlier ++ [property]).map Property.name).Nodup ↔
      property.name ∉ earlier.map Property.name ∧ (earlier.map Property.name).Nodup := by
  rw [List.map_append, List.map_singleton, ← List.concat_eq_append, List.nodup_concat]

/-- Properties of different names are inserted one behind the other. -/
theorem foldl_insert_of_nodup {found : List Property}
    (distinct : (found.map Property.name).Nodup) : found.foldl insert empty = ⟨found⟩ := by
  -- From the end, since a property is compared with the names of all earlier ones.
  induction found using List.reverseRecOn with
  | nil => rfl
  | append_singleton earlier property ih =>
    obtain ⟨new, distinctEarlier⟩ := nodup_names_concat.mp distinct
    rw [List.foldl_append, ih distinctEarlier]
    exact congrArg PropertyList.mk (insertInto_of_new new)

/-- A list that was read is read again from its tokens, whatever blanks stand before, between and
behind them. -/
theorem parse_spelled_again {raw : String} {list : PropertyList} (read : parse raw = .ok list)
    {text : String} (spaced : Spaced isBlank (list.entries.map Property.token) text) :
    parse text = .ok list := by
  rw [parse_of_spaced (fun _ member => writable_of_parse read member) spaced,
    foldl_insert_of_nodup (wellNamed_of_parse read).distinct]

/-- The list holds the last type of a repeated name, in the place of the first. -/
theorem parse_spelled_again_title :
    let list : PropertyList := ⟨[⟨"title", "text"⟩, ⟨"tag", "\\Tag"⟩]⟩
    let text := "\u3000\ttext:title\u2028 \\Tag:tag\u0085"
    parse "string:title \\Tag:tag text:title" = .ok list ∧
      Spaced isBlank (list.entries.map Property.token) text ∧ parse text = .ok list := by
  intro list text
  have read : parse "string:title \\Tag:tag text:title" = .ok list := by decide +kernel
  have leading : ∀ c ∈ "\u3000\t".toList, isBlank c = true := by simp [isBlank]
  have last : Spaced isBlank ["\\Tag:tag"] ("\u2028 " ++ "\\Tag:tag" ++ "\u0085") :=
    .piece (by simp [isBlank]) (.gaps (by simp [isBlank])) (.inl rfl)
  have spaced : Spaced isBlank (list.entries.map Property.token) text :=
    .piece leading last (.inr ⟨'\u2028', rfl, by decide⟩)
  exact ⟨read, spaced, parse_spelled_again read spaced⟩

end PropertyList

end DtoScaffold
