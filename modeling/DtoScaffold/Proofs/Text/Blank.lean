import DtoScaffold.Text.Blank
import Mathlib.Data.List.DropRight

/-!
# Trimming

A trimmed text has no blank at either end, so trimming it again changes nothing, and neither does
trimming any other text without blanks at its ends. What stands before a character that is not blank
is kept.
-/
namespace DtoScaffold.Text

theorem trimEnd_eq (cs : List Char) : trimEnd cs = cs.rdropWhile isBlank :=
  rfl

theorem toList_trim (text : String) :
    (trim text).toList = (text.toList.dropWhile isBlank).rdropWhile isBlank := by
  rw [trim, String.toList_ofList, trimEnd_eq]

/-- What is left of a text stands in it as it is. -/
theorem trim_isInfix (text : String) : (trim text).toList <:+: text.toList := by
  rw [toList_trim]
  exact (List.rdropWhile_prefix isBlank _).isInfix.trans (List.dropWhile_suffix isBlank).isInfix

/-- Blanks are dropped from the end first or from the start first. -/
private theorem dropWhile_rdropWhile (cs : List Char) :
    ((cs.dropWhile isBlank).rdropWhile isBlank).dropWhile isBlank =
      (cs.dropWhile isBlank).rdropWhile isBlank := by
  -- What is left starts like the text without its leading blanks, if anything is left.
  apply List.dropWhile_eq_self_iff.mpr
  intro filled
  have kept := List.rdropWhile_prefix isBlank (cs.dropWhile isBlank)
  have longer := kept.length_le
  have first := List.dropWhile_get_zero_not isBlank cs (by omega)
  rwa [kept.getElem filled]

theorem trim_trim (text : String) : trim (trim text) = trim text := by
  apply String.toList_inj.mp
  rw [toList_trim, toList_trim, dropWhile_rdropWhile, List.rdropWhile_idempotent]

/-- Only the ends of a text decide whether trimming changes it. -/
theorem trim_of_ends {text : String} (first : ∀ c ∈ text.toList.head?, isBlank c = false)
    (last : ∀ c ∈ text.toList.getLast?, isBlank c = false) : trim text = text := by
  apply String.toList_inj.mp
  have leading : text.toList.dropWhile isBlank = text.toList := by
    apply List.dropWhile_eq_self_iff.mpr
    intro filled
    rw [first _ (by rw [List.head?_eq_getElem?, List.getElem?_eq_getElem filled]; rfl)]
    exact Bool.false_ne_true
  rw [toList_trim, leading]
  apply List.rdropWhile_eq_self_iff.mpr
  intro filled
  rw [last _ (List.getLast?_eq_some_getLast filled)]
  exact Bool.false_ne_true

theorem trim_of_gapless {text : String} (gapless : ∀ c ∈ text.toList, isBlank c = false) :
    trim text = text :=
  trim_of_ends (fun c first => gapless c (List.mem_of_mem_head? first))
    (fun c last => gapless c (List.mem_of_mem_getLast? last))

/-- A text with a character at least and no blank at either end. -/
structure Bare (text : String) : Prop where
  filled : text ≠ ""
  first : ∀ c ∈ text.toList.head?, isBlank c = false
  last : ∀ c ∈ text.toList.getLast?, isBlank c = false

theorem bare_trim {text : String} (filled : (trim text).isEmpty = false) : Bare (trim text) := by
  refine ⟨by simpa using filled, ?_, ?_⟩
  · intro c first
    obtain ⟨rest, chars⟩ := List.head?_eq_some_iff.mp (Option.mem_def.mp first)
    -- What is cut from the end leaves the first character that is not blank in front.
    have kept := List.rdropWhile_prefix isBlank (text.toList.dropWhile isBlank)
    rw [← toList_trim, chars] at kept
    obtain ⟨others, whole⟩ := kept
    have leading := List.head?_dropWhile_not isBlank text.toList
    simpa [← whole] using leading
  · intro c last
    obtain ⟨rest, chars⟩ := List.getLast?_eq_some_iff.mp (Option.mem_def.mp last)
    have nonempty : (text.toList.dropWhile isBlank).rdropWhile isBlank ≠ [] := by
      rw [← toList_trim, chars]
      simp
    have trailing := List.rdropWhile_last_not isBlank _ nonempty
    simp only [← toList_trim, chars, List.getLast_append_singleton] at trailing
    simpa using trailing

/-- Only what stands behind the last character that is not blank is cut. -/
theorem trimEnd_append_of_gapless {stretch : List Char} (filled : stretch ≠ [])
    (gapless : ∀ c ∈ stretch, isBlank c = false) (indent rest : List Char) :
    trimEnd (indent ++ stretch ++ rest) = indent ++ stretch ++ trimEnd rest := by
  rw [trimEnd_eq, trimEnd_eq]
  induction rest using List.reverseRecOn with
  | nil =>
    rw [List.append_nil, List.rdropWhile_nil, List.append_nil]
    apply List.rdropWhile_eq_self_iff.mpr
    intro nonempty
    rw [List.getLast_append_of_ne_nil nonempty filled]
    simp [gapless _ (List.getLast_mem filled)]
  | append_singleton rest c ih =>
    rw [← List.append_assoc, List.rdropWhile_concat, List.rdropWhile_concat]
    split
    · exact ih
    · simp

end DtoScaffold.Text
