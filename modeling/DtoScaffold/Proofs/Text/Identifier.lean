import DtoScaffold.Proofs.Text.Runs
import DtoScaffold.Text.Blank
import DtoScaffold.Text.Identifier

/-!
# The characters of identifiers

An identifier is never empty and holds ASCII letters, digits and low lines only. So it is a single
run for every kind of gap that none of these characters is.
-/
namespace DtoScaffold.Text

theorem isIdentifierRest_of_isIdentifierStart {c : Char} (starts : isIdentifierStart c = true) :
    isIdentifierRest c = true := by
  simp only [isIdentifierStart, isIdentifierRest, Char.isAlphanum, Bool.or_eq_true] at starts ⊢
  rcases starts with letter | low
  · exact Or.inl (Or.inl letter)
  · exact Or.inr low

theorem isIdentifier_iff {name : String} :
    isIdentifier name = true ↔ ∃ first rest, name.toList = first :: rest ∧
      isIdentifierStart first = true ∧ ∀ c ∈ rest, isIdentifierRest c = true := by
  unfold isIdentifier
  cases name.toList with
  | nil => simp
  | cons first rest =>
    simp only [Bool.and_eq_true, List.all_eq_true]
    constructor
    · rintro ⟨starts, inside⟩
      exact ⟨first, rest, rfl, starts, inside⟩
    · rintro ⟨_, _, same, starts, inside⟩
      cases same
      exact ⟨starts, inside⟩

/-- The code points of letters, digits and the low line. -/
theorem toNat_of_isIdentifierRest {c : Char} (inside : isIdentifierRest c = true) :
    (48 ≤ c.toNat ∧ c.toNat ≤ 57) ∨ (65 ≤ c.toNat ∧ c.toNat ≤ 90) ∨ c.toNat = 95 ∨
      (97 ≤ c.toNat ∧ c.toNat ≤ 122) := by
  have classes : (((c.isUpper || c.isLower) || c.isDigit) || c == '_') = true := inside
  simp only [Bool.or_eq_true, beq_iff_eq] at classes
  rcases classes with ((upper | lower) | digit) | rfl
  · have range : 'A'.val ≤ c.val ∧ c.val ≤ 'Z'.val := of_decide_eq_true upper
    exact Or.inr (Or.inl range)
  · obtain ⟨low, high⟩ := Bool.and_eq_true_iff.mp lower
    exact Or.inr (Or.inr (Or.inr ⟨of_decide_eq_true low, of_decide_eq_true high⟩))
  · exact Or.inl (Char.isDigit_iff_toNat.mp digit)
  · exact Or.inr (Or.inr (Or.inl rfl))

theorem isBlank_of_isIdentifierRest {c : Char} (inside : isIdentifierRest c = true) :
    isBlank c = false := by
  have range := toNat_of_isIdentifierRest inside
  simp only [isBlank, Bool.or_eq_false_iff, Bool.and_eq_false_iff, decide_eq_false_iff_not,
    beq_eq_false_iff_ne]
  omega

theorem isIdentifierRest_of_mem {name : String} (valid : isIdentifier name = true) {c : Char}
    (member : c ∈ name.toList) : isIdentifierRest c = true := by
  obtain ⟨first, rest, chars, starts, inside⟩ := isIdentifier_iff.mp valid
  rw [chars] at member
  rcases List.mem_cons.mp member with rfl | later
  · exact isIdentifierRest_of_isIdentifierStart starts
  · exact inside c later

theorem not_mem_of_isIdentifier {name : String} (valid : isIdentifier name = true) {c : Char}
    (outside : isIdentifierRest c = false) : c ∉ name.toList := by
  intro inside
  rw [isIdentifierRest_of_mem valid inside] at outside
  cases outside

theorem isIdentifier_append {left right : String} (validLeft : isIdentifier left = true)
    (validRight : isIdentifier right = true) : isIdentifier (left ++ right) = true := by
  obtain ⟨first, rest, chars, starts, inside⟩ := isIdentifier_iff.mp validLeft
  refine isIdentifier_iff.mpr ⟨first, rest ++ right.toList, by simp [chars], starts, ?_⟩
  intro c member
  rcases List.mem_append.mp member with before | after
  · exact inside c before
  · exact isIdentifierRest_of_mem validRight after

/-- An identifier is one run wherever its characters are no gaps. -/
theorem solid_of_isIdentifier {isGap : Char → Bool} {name : String}
    (apart : ∀ c, isIdentifierRest c = true → isGap c = false) (valid : isIdentifier name = true) :
    Solid isGap name := by
  obtain ⟨first, rest, chars, _⟩ := isIdentifier_iff.mp valid
  exact ⟨by simp [chars], fun c member => apart c (isIdentifierRest_of_mem valid member)⟩

end DtoScaffold.Text
