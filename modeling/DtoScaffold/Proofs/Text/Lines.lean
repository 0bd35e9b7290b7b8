import DtoScaffold.Text.Blank
import DtoScaffold.Text.Line

/-!
# Places on lines

A stretch of characters that end no line stands on one line. The lines above it tell the number of
its line and the position where the line starts.
-/
namespace DtoScaffold.Text

theorem isBlank_of_endsLine {c : Char} (ends : endsLine c = true) : isBlank c = true := by
  simp only [endsLine, isBlank, Bool.or_eq_true, Bool.and_eq_true, beq_iff_eq,
    decide_eq_true_eq] at ends ⊢
  omega

/-- A character that ends no line is put in front of the first line. -/
private theorem sourceLines_cons {c : Char} (inside : endsLine c = false) (cs : List Char) :
    sourceLines (c :: cs) =
      match sourceLines cs with
      | [] => [[c]]
      | line :: lines => (c :: line) :: lines := by
  rw [sourceLines]
  · refine (if_neg (by simp [inside])).trans ?_
    cases sourceLines cs <;> rfl
  · rintro rest rfl
    cases inside

private theorem sourceLines_append_inside {stretch : List Char} (filled : stretch ≠ [])
    (inside : ∀ c ∈ stretch, endsLine c = false) (after : List Char) :
    ∃ rest below, sourceLines (stretch ++ after) = (stretch ++ rest) :: below := by
  induction stretch with
  | nil => exact absurd rfl filled
  | cons c cs ih =>
    rw [List.cons_append, sourceLines_cons (inside c List.mem_cons_self)]
    by_cases last : cs = []
    · subst last
      rw [List.nil_append]
      cases sourceLines after with
      | nil => exact ⟨[], [], rfl⟩
      | cons line lines => exact ⟨line, lines, rfl⟩
    · obtain ⟨rest, below, lines⟩ :=
        ih last fun x member => inside x (List.mem_cons_of_mem _ member)
      rw [lines]
      exact ⟨rest, below, rfl⟩

private theorem exists_indent_cons {c : Char} (inside : endsLine c = false)
    {cs indent line : List Char} {above below : List (List Char)}
    (divided : sourceLines cs = above ++ (indent ++ line) :: below) :
    ∃ higher longer, sourceLines (c :: cs) = higher ++ (longer ++ line) :: below ∧
      higher.flatten ++ longer = c :: (above.flatten ++ indent) := by
  rw [sourceLines_cons inside, divided]
  cases above with
  | nil => exact ⟨[], c :: indent, rfl, rfl⟩
  | cons top above => exact ⟨(c :: top) :: above, indent, rfl, rfl⟩

/-- Characters before a line add lines above it and lengthen it at its start. -/
private theorem sourceLines_append_line {first : Char} {rest line : List Char}
    {below : List (List Char)} (notFeed : first ≠ '\n')
    (lines : sourceLines (first :: rest) = line :: below) (before : List Char) :
    ∃ above indent, sourceLines (before ++ first :: rest) = above ++ (indent ++ line) :: below ∧
      before = above.flatten ++ indent := by
  fun_induction sourceLines before with
  | case1 => exact ⟨[], [], lines, rfl⟩
  | case2 cs ih =>
    obtain ⟨above, indent, divided, whole⟩ := ih
    refine ⟨['\r', '\n'] :: above, indent, ?_, by simp [whole]⟩
    rw [List.cons_append, List.cons_append, sourceLines, divided]
    rfl
  | case3 c cs single ends ih =>
    obtain ⟨above, indent, divided, whole⟩ := ih
    refine ⟨[c] :: above, indent, ?_, by simp [whole]⟩
    rw [List.cons_append, sourceLines, if_pos ends, divided]
    · rfl
    · -- A line feed behind the character would be among the characters before or the first one.
      intro others isReturn feed
      cases cs with
      | nil => exact notFeed (List.cons.inj feed).1
      | cons second cs => exact single cs isReturn (by rw [(List.cons.inj feed).1])
  | case4 c cs _ stays _ ih | case5 c cs _ stays _ _ _ ih =>
    obtain ⟨above, indent, divided, whole⟩ := ih
    obtain ⟨higher, longer, grown, same⟩ := exists_indent_cons (by simpa using stays) divided
    exact ⟨higher, longer, grown, by rw [same, whole]⟩

/-- A stretch without line endings lies on one line of its text. -/
theorem exists_line_of_inside {stretch : List Char} (filled : stretch ≠ [])
    (inside : ∀ c ∈ stretch, endsLine c = false) (before after : List Char) :
    ∃ above indent rest below,
      sourceLines (before ++ stretch ++ after) = above ++ (indent ++ stretch ++ rest) :: below ∧
        before = above.flatten ++ indent := by
  obtain ⟨rest, below, lines⟩ := sourceLines_append_inside filled inside after
  obtain ⟨first, others, split⟩ := List.exists_cons_of_ne_nil filled
  have notFeed : first ≠ '\n' := by
    rintro rfl
    cases inside '\n' (by simp [split])
  rw [split, List.cons_append] at lines
  obtain ⟨above, indent, divided, whole⟩ := sourceLines_append_line notFeed lines before
  refine ⟨above, indent, rest, below, ?_, whole⟩
  rw [split, List.append_assoc, List.cons_append, divided]
  simp

private theorem numberLines_append (number start : Nat) (above lines : List (List Char)) :
    numberLines number start (above ++ lines) = numberLines number start above ++
      numberLines (number + above.length) (start + above.flatten.length) lines := by
  induction above generalizing number start with
  | nil => rfl
  | cons line above ih =>
    simp [numberLines, ih, Nat.add_assoc, Nat.add_comm 1]

private theorem bounds_of_mem_numberLines {number start : Nat} {lines : List (List Char)}
    {line : SourceLine} (member : line ∈ numberLines number start lines) :
    start ≤ line.start ∧ line.start ≤ start + lines.flatten.length := by
  induction lines generalizing number start with
  | nil => cases member
  | cons chars lines ih =>
    rw [List.flatten_cons, List.length_append]
    rcases List.mem_cons.mp member with rfl | later
    · exact ⟨Nat.le_refl _, Nat.le_add_right _ _⟩
    · have bounds := ih later
      omega

/-- A position is on the line that starts there or before and ends behind it. -/
theorem lineAt?_eq {source line : List Char} {above below : List (List Char)} {position : Nat}
    (divided : sourceLines source = above ++ line :: below)
    (started : above.flatten.length ≤ position)
    (unfinished : position < above.flatten.length + line.length) :
    lineAt? source position = some ⟨above.length + 1, above.flatten.length, line⟩ := by
  have upper : ∀ other ∈ numberLines 1 0 above, other.start ≤ position := by
    intro other member
    have bounds := bounds_of_mem_numberLines member
    omega
  have lower : ∀ other ∈ numberLines (above.length + 2) (above.flatten.length + line.length) below,
      ¬ other.start ≤ position := by
    intro other member
    have bounds := bounds_of_mem_numberLines member
    omega
  have keptUpper : (numberLines 1 0 above).filter (·.start ≤ position) = numberLines 1 0 above :=
    List.filter_eq_self.mpr fun other member => decide_eq_true (upper other member)
  have keptLower : (numberLines (above.length + 2) (above.flatten.length + line.length)
      below).filter (·.start ≤ position) = [] :=
    List.filter_eq_nil_iff.mpr fun other member => by simpa using lower other member
  have numbered : numberLines 1 0 (sourceLines source) = numberLines 1 0 above ++
      ⟨above.length + 1, above.flatten.length, line⟩ ::
        numberLines (above.length + 2) (above.flatten.length + line.length) below := by
    rw [divided, numberLines_append, numberLines, Nat.zero_add, Nat.add_comm 1]
  rw [lineAt?, numbered, List.filter_append, List.filter_cons, keptUpper, keptLower,
    if_pos (decide_eq_true started), List.getLast?_append, List.getLast?_singleton, Option.some_or]

/-- The bytes of whole characters are as many characters. -/
theorem charsBefore?_utf8ByteSize (before after : List Char) :
    charsBefore? (String.ofList before).utf8ByteSize (before ++ after) = some before.length := by
  induction before with
  | nil => cases after <;> simp [charsBefore?]
  | cons c before ih =>
    have size : (String.ofList (c :: before)).utf8ByteSize =
        c.utf8Size + (String.ofList before).utf8ByteSize := by
      rw [← List.singleton_append, String.ofList_append, String.utf8ByteSize_append,
        ← String.singleton_eq_ofList, String.utf8ByteSize_singleton]
    have filled := c.utf8Size_pos
    rw [List.cons_append, charsBefore?, size, if_neg (by omega), if_neg (by omega),
      Nat.add_sub_cancel_left, ih]
    rfl

end DtoScaffold.Text
