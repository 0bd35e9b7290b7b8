import Mathlib.Tactic.SplitIfs

/-!
# The order of texts as bytes

Texts are compared character by character. The bytes of a character in UTF-8 begin with a byte that
tells how many there are, a longer form stands for greater code points, and the digits to base 64
follow from the highest on. So comparing the bytes of two texts gives the same order.
-/
namespace DtoScaffold.Text

/-- The bytes of a text in UTF-8. -/
def utf8 (text : String) : List UInt8 :=
  text.toUTF8.data.toList

theorem utf8_eq (text : String) : utf8 text = text.toList.flatMap String.utf8EncodeChar := by
  have encoded : text.toUTF8 = text.toList.utf8Encode := by
    rw [String.toUTF8_eq_toByteArray, ← String.toByteArray_ofList, String.ofList_toList]
  rw [utf8, encoded, List.utf8Encode, List.data_toByteArray, List.toList_toArray]

/-- Numbers that fit into a byte decide before what stands behind them. -/
private theorem ofNat_cons_lt_iff {m n : Nat} (small : m < 256) (smallToo : n < 256)
    {first second : List UInt8} :
    UInt8.ofNat m :: first < UInt8.ofNat n :: second ↔ m < n ∨ m = n ∧ first < second := by
  have less : UInt8.ofNat m < UInt8.ofNat n ↔ m < n := by
    rw [UInt8.lt_iff_toNat_lt, UInt8.toNat_ofNat_of_lt' small, UInt8.toNat_ofNat_of_lt' smallToo]
  have same : UInt8.ofNat m = UInt8.ofNat n ↔ m = n := by
    rw [← UInt8.toNat_inj, UInt8.toNat_ofNat_of_lt' small, UInt8.toNat_ofNat_of_lt' smallToo]
  rw [List.cons_lt_cons_iff, less, same]

/-- The last digit to base 64 decides when all higher ones are the same. -/
private theorem digit_lt {m n : Nat} (less : m < n) :
    m / 64 < n / 64 ∨ m / 64 = n / 64 ∧ m % 64 < n % 64 := by
  omega

/-- The bytes of a smaller character are smaller, whatever follows them. -/
theorem utf8EncodeChar_append_lt {c d : Char} (less : c < d) (first second : List UInt8) :
    String.utf8EncodeChar c ++ first < String.utf8EncodeChar d ++ second := by
  have number : c.val.toNat < d.val.toNat := less
  have bound : d.val.toNat < 0x110000 := by
    have valid : d.val.toNat.isValidChar := d.valid
    unfold Nat.isValidChar at valid
    omega
  unfold String.utf8EncodeChar
  generalize c.val.toNat = m, d.val.toNat = n at number bound
  have low := digit_lt number
  have middle := @digit_lt (m / 64) (n / 64)
  have high := @digit_lt (m / 64 / 64) (n / 64 / 64)
  simp only [Nat.div_div_eq_div_mul, Nat.reduceMul] at middle high
  -- Code points end at U+10FFFF, so the first of four bytes holds the whole highest digit.
  have top : m / 262144 % 8 = m / 262144 := Nat.mod_eq_of_lt (by omega)
  have topToo : n / 262144 % 8 = n / 262144 := Nat.mod_eq_of_lt (by omega)
  dsimp only
  -- A case for each pair of lengths; where they differ the first bytes do.
  split_ifs
  all_goals
    simp (disch := omega) only [List.cons_append, List.nil_append, ofNat_cons_lt_iff]
    omega

private theorem flatMap_utf8EncodeChar_lt {first second : List Char} (less : first < second) :
    first.flatMap String.utf8EncodeChar < second.flatMap String.utf8EncodeChar := by
  induction first generalizing second with
  | nil =>
    cases second with
    | nil => exact absurd less (List.lt_irrefl _)
    | cons d second =>
      rw [List.flatMap_cons]
      obtain ⟨byte, bytes, encoded⟩ :=
        List.exists_cons_of_ne_nil (String.utf8EncodeChar_ne_nil (c := d))
      rw [encoded]
      exact List.nil_lt_cons _ _
  | cons c first ih =>
    cases second with
    | nil => exact absurd less (List.not_lt_nil _)
    | cons d second =>
      rw [List.flatMap_cons, List.flatMap_cons]
      rcases List.cons_lt_cons_iff.mp less with before | ⟨rfl, later⟩
      · exact utf8EncodeChar_append_lt before _ _
      · exact List.append_left_lt (ih later)

/-- Texts have the order of their bytes. -/
theorem utf8_lt_iff {first second : String} : utf8 first < utf8 second ↔ first < second := by
  rw [utf8_eq, utf8_eq, String.lt_iff]
  refine ⟨fun less => ?_, flatMap_utf8EncodeChar_lt⟩
  by_cases smaller : first.toList < second.toList
  · exact smaller
  -- Otherwise the second text is smaller or the same, and so are its bytes.
  rcases List.le_iff_lt_or_eq.mp (List.not_lt.mp smaller) with greater | same
  · exact absurd (flatMap_utf8EncodeChar_lt greater) (List.lt_asymm less)
  · rw [same] at less
    exact absurd less (List.lt_irrefl _)

end DtoScaffold.Text
