import DtoScaffold.Json.Text
import DtoScaffold.Json.Value
import Mathlib.Tactic.SplitIfs

/-!
# Written texts read again

Every character of a text is written as itself or as an escape that denotes it, so a written text is
read again whatever characters it holds, and reading stops right behind its closing quote.
-/
namespace DtoScaffold.Json

theorem hexValue?_hexDigit {n : Nat} (small : n < 16) : hexValue? (hexDigit n) = some n := by
  have all : ∀ n < 16, hexValue? (hexDigit n) = some n := by decide
  exact all n small

/-- Two hexadecimal digits behind two zeros denote a number below 256. -/
theorem hexUnit_digits {n : Nat} (small : n < 256) (rest : List Char) :
    hexUnit ('0' :: '0' :: hexDigit (n / 16) :: hexDigit (n % 16) :: rest) = .ok n := by
  have zero : hexValue? '0' = some 0 := by decide
  have high := hexValue?_hexDigit (n := n / 16) (by omega)
  have low := hexValue?_hexDigit (n := n % 16) (by omega)
  simp only [hexUnit, zero, high, low]
  congr 1
  omega

theorem escape_control {c : Char} (control : c.toNat < 0x20) (rest : List Char) :
    escape ('u' :: '0' :: '0' :: hexDigit (c.toNat / 16) :: hexDigit (c.toNat % 16) :: rest) =
      .ok (c, 5) := by
  have unit := hexUnit_digits (n := c.toNat) (by omega) rest
  -- Surrogates are far above the control characters.
  have notLow : isLowSurrogate c.toNat = false := by
    simp [isLowSurrogate]
    omega
  have notHigh : isHighSurrogate c.toNat = false := by
    simp [isHighSurrogate]
    omega
  simp [escape, unicodeEscape, unit, notLow, notHigh, Char.ofNat_toNat, Except.map, bind,
    Except.bind, pure, Except.pure]

/-- A character is written as a short escape, as a code point or as it is. -/
theorem escaped_cases (c : Char) :
    (∃ letter, letter ≠ 'u' ∧ simpleEscape? letter = some c ∧ escaped c = ['\\', letter]) ∨
      (c.toNat < 0x20 ∧
        escaped c = ['\\', 'u', '0', '0', hexDigit (c.toNat / 16), hexDigit (c.toNat % 16)]) ∨
      (c ≠ '"' ∧ c ≠ '\\' ∧ 0x20 ≤ c.toNat ∧ escaped c = [c]) := by
  unfold escaped
  split_ifs with quote backslash backspace formFeed newline carriage tab control
  · exact .inl ⟨'"', by decide, by rw [quote]; rfl, rfl⟩
  · exact .inl ⟨'\\', by decide, by rw [backslash]; rfl, rfl⟩
  · exact .inl ⟨'b', by decide, by rw [backspace]; rfl, rfl⟩
  · exact .inl ⟨'f', by decide, by rw [formFeed]; rfl, rfl⟩
  · exact .inl ⟨'n', by decide, by rw [newline]; rfl, rfl⟩
  · exact .inl ⟨'r', by decide, by rw [carriage]; rfl, rfl⟩
  · exact .inl ⟨'t', by decide, by rw [tab]; rfl, rfl⟩
  · exact .inr (.inl ⟨control, rfl⟩)
  · exact .inr (.inr ⟨quote, backslash, Nat.not_lt.mp control, rfl⟩)

/-- An escape that is read gives one character of the text. -/
theorem textChars_escape {c : Char} (denoting : List Char) {rest : List Char}
    (denotes : escape (denoting ++ rest) = .ok (c, denoting.length)) :
    textChars ('\\' :: (denoting ++ rest)) =
      (textChars rest).map fun (text, after) => (c :: text, after) := by
  rw [textChars, denotes]
  simp only [List.drop_left]

theorem textChars_escaped (c : Char) (rest : List Char) :
    textChars (escaped c ++ rest) =
      (textChars rest).map fun (text, after) => (c :: text, after) := by
  rcases escaped_cases c with ⟨letter, notUnicode, denotes, written⟩ | ⟨control, written⟩ |
    ⟨notQuote, notBackslash, printable, written⟩
  · rw [written]
    apply textChars_escape [letter]
    rw [List.singleton_append, escape]
    · simp [denotes]
    · exact notUnicode
  · rw [written]
    exact textChars_escape _ (escape_control control rest)
  · rw [written, List.singleton_append, textChars, if_neg (Nat.not_lt.mpr printable)]
    · exact notQuote
    · exact notBackslash

/-- The characters of a written text are read up to its closing quote. -/
theorem textChars_flatMap_escaped (cs rest : List Char) :
    textChars (cs.flatMap escaped ++ '"' :: rest) = .ok (cs, rest) := by
  induction cs with
  | nil => rw [List.flatMap_nil, List.nil_append, textChars]
  | cons c cs ih =>
    rw [List.flatMap_cons, List.append_assoc, textChars_escaped, ih]
    rfl

theorem text_quoted (value : String) (rest : List Char) :
    text (value.toList.flatMap escaped ++ '"' :: rest) = .ok (value, rest) := by
  simp only [text, textChars_flatMap_escaped, Except.map, String.ofList_toList]

theorem toList_quoted (value : String) :
    (quoted value).toList = '"' :: (value.toList.flatMap escaped ++ ['"']) := by
  rw [quoted, String.toList_ofList]
  rfl

end DtoScaffold.Json
