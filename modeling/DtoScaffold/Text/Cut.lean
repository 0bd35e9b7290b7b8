/-!
# Cutting a text in two

A text is cut at the first place where a given character stands; later ones stay in the second part.
-/
namespace DtoScaffold.Text

/-- The parts before and after the first `separator`, if the text has one. -/
def cutAt? (separator : Char) (text : String) : Option (String × String) :=
  match text.toList.dropWhile (· != separator) with
  | [] => none
  | _ :: rest => some (String.ofList (text.toList.takeWhile (· != separator)), String.ofList rest)

private theorem dropWhile_eq_nil {separator : Char} {cs : List Char} :
    cs.dropWhile (· != separator) = [] ↔ separator ∉ cs := by
  induction cs with
  | nil => simp
  | cons c rest ih =>
    by_cases same : c = separator
    · simp [same]
    · simp [same, ih, Ne.symm same]

theorem cutAt?_eq_none_iff {separator : Char} {text : String} :
    cutAt? separator text = none ↔ separator ∉ text.toList := by
  rw [← dropWhile_eq_nil, cutAt?]
  split
  · rename_i empty
    simp [empty]
  · rename_i rest
    simp [rest]

private theorem split_append {separator : Char} {first : List Char} (absent : separator ∉ first)
    (second : List Char) :
    (first ++ separator :: second).takeWhile (· != separator) = first ∧
      (first ++ separator :: second).dropWhile (· != separator) = separator :: second := by
  induction first with
  | nil => simp
  | cons c rest ih =>
    simp only [List.mem_cons, not_or] at absent
    have both := ih absent.2
    simp [Ne.symm absent.1, both.1, both.2]

/-- The parts of a cut text are what stands before the first separator and after it. -/
theorem cutAt?_append {separator : Char} {first second : String}
    (absent : separator ∉ first.toList) :
    cutAt? separator (first ++ String.singleton separator ++ second) = some (first, second) := by
  have both := split_append absent second.toList
  simp [cutAt?, both.1, both.2]

/-- A text is cut exactly where the first separator stands. -/
theorem cutAt?_eq_some_iff {separator : Char} {text first second : String} :
    cutAt? separator text = some (first, second) ↔
      separator ∉ first.toList ∧ text = first ++ String.singleton separator ++ second := by
  constructor
  · intro cut
    have whole := List.takeWhile_append_dropWhile (p := (· != separator)) (l := text.toList)
    unfold cutAt? at cut
    split at cut
    · cases cut
    next found rest remaining =>
      cases cut
      have stopped : found = separator := by
        have ended := List.head?_dropWhile_not (· != separator) text.toList
        simpa [remaining] using ended
      constructor
      · intro inside
        rw [String.toList_ofList] at inside
        have kept := List.all_eq_true.mp List.all_takeWhile separator inside
        simp at kept
      · apply String.toList_inj.mp
        rw [remaining, stopped] at whole
        simpa using whole.symm
  · rintro ⟨absent, rfl⟩
    exact cutAt?_append absent

end DtoScaffold.Text
