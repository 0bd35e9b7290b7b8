import DtoScaffold.Proofs.Text.Identifier
import DtoScaffold.Text.Uppercase

/-!
# Capitalized identifiers

The first character of an identifier has a single character as its upper-case form, its ASCII
capital. Capitalizing forgets therefore nothing of an identifier but the case of its first letter,
and gives an identifier again.
-/
namespace DtoScaffold.Text

/-- What holds of the ASCII characters up to `z` holds of every character that starts an
identifier. -/
private theorem of_isIdentifierStart {Holds : Char → Prop}
    (ascii : ∀ n < 123, isIdentifierStart (Char.ofNat n) = true → Holds (Char.ofNat n))
    {c : Char} (starts : isIdentifierStart c = true) : Holds c := by
  have range := toNat_of_isIdentifierRest (isIdentifierRest_of_isIdentifierStart starts)
  have holds := ascii c.toNat (by omega)
  rw [Char.ofNat_toNat] at holds
  exact holds starts

theorem upperForm_of_isIdentifierStart {c : Char} (starts : isIdentifierStart c = true) :
    upperForm c = [c.toUpper] := by
  apply of_isIdentifierStart _ starts
  decide +kernel

theorem isIdentifierStart_toUpper {c : Char} (starts : isIdentifierStart c = true) :
    isIdentifierStart c.toUpper = true := by
  apply of_isIdentifierStart _ starts
  decide

theorem toList_capitalize {name : String} {first : Char} {rest : List Char}
    (chars : name.toList = first :: rest) (starts : isIdentifierStart first = true) :
    (capitalize name).toList = first.toUpper :: rest := by
  simp [capitalize, chars, upperForm_of_isIdentifierStart starts]

theorem isIdentifier_capitalize {name : String} (valid : isIdentifier name = true) :
    isIdentifier (capitalize name) = true := by
  obtain ⟨first, rest, chars, starts, inside⟩ := isIdentifier_iff.mp valid
  exact isIdentifier_iff.mpr ⟨first.toUpper, rest, toList_capitalize chars starts,
    isIdentifierStart_toUpper starts, inside⟩

/-- The texts are the same but for the case of their first letters. -/
def SameButFirstCase (left right : String) : Prop :=
  ∃ first second rest, left.toList = first :: rest ∧ right.toList = second :: rest ∧
    first.toUpper = second.toUpper

theorem capitalize_eq_iff {left right : String} (validLeft : isIdentifier left = true)
    (validRight : isIdentifier right = true) :
    capitalize left = capitalize right ↔ SameButFirstCase left right := by
  obtain ⟨first, rest, chars, starts, _⟩ := isIdentifier_iff.mp validLeft
  obtain ⟨second, others, otherChars, otherStarts, _⟩ := isIdentifier_iff.mp validRight
  rw [← String.toList_inj, toList_capitalize chars starts,
    toList_capitalize otherChars otherStarts, List.cons.injEq]
  constructor
  · rintro ⟨capitals, rfl⟩
    exact ⟨first, second, rest, chars, otherChars, capitals⟩
  · rintro ⟨_, _, _, sameLeft, sameRight, capitals⟩
    rw [chars] at sameLeft
    rw [otherChars] at sameRight
    cases sameLeft
    cases sameRight
    exact ⟨capitals, rfl⟩

end DtoScaffold.Text
