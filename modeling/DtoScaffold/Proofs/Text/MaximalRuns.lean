import DtoScaffold.Proofs.Text.Runs

/-!
# Runs and their places

The runs of a text are exactly its maximal stretches without gaps, in the order in which they stand,
and the bytes at the offset of a run are the bytes of the run.
-/
namespace DtoScaffold.Text

/-- A stretch without gaps that cannot be made longer: on either side of it stands a gap, or the
text ends. -/
structure IsMaximal (isGap : Char → Bool) (cs : List Char) (run : Run) : Prop where
  filled : run.chars ≠ []
  gapless : ∀ c ∈ run.chars, isGap c = false
  bounded : ∃ after, cs = run.before ++ run.chars ++ after ∧
    (∀ c ∈ run.before.getLast?, isGap c = true) ∧ ∀ c ∈ after.head?, isGap c = true

/-- All maximal stretches without gaps, each once, in the order in which they stand. -/
structure MaximalRuns (isGap : Char → Bool) (cs : List Char) (found : List Run) : Prop where
  mem_iff : ∀ run, run ∈ found ↔ IsMaximal isGap cs run
  ordered : found.Pairwise fun first second => first.before.length < second.before.length

private theorem bounded_of_mem_runsAfter {isGap : Char → Bool} {before cs : List Char} {run : Run}
    (member : run ∈ runsAfter isGap before cs) :
    ∃ inner after, run.before = before ++ inner ∧ cs = inner ++ run.chars ++ after ∧
      (∀ c ∈ inner.getLast?, isGap c = true) ∧ ∀ c ∈ after.head?, isGap c = true := by
  fun_induction runsAfter isGap before cs with
  | case1 => cases member
  | case2 before c rest gap ih =>
    obtain ⟨inner, after, start, whole, left, right⟩ := ih member
    refine ⟨c :: inner, after, by simp [start], by simp [whole], ?_, right⟩
    cases inner with
    | nil => simpa using gap
    | cons first others => simpa using left
  | case3 before c rest solid chars ih =>
    have stopped : ∀ x ∈ (rest.dropWhile (!isGap ·)).head?, isGap x = true := by
      intro x first
      have ended := List.head?_dropWhile_not (!isGap ·) rest
      rw [Option.mem_def.mp first] at ended
      simpa using ended
    rcases List.mem_cons.mp member with rfl | later
    · refine ⟨[], rest.dropWhile (!isGap ·), by simp, ?_, by simp, stopped⟩
      simp [chars, List.takeWhile_append_dropWhile]
    · obtain ⟨inner, after, start, whole, left, right⟩ := ih later
      refine ⟨chars ++ inner, after, by simp [start], ?_, ?_, right⟩
      · rw [List.append_assoc, List.append_assoc, ← List.append_assoc inner, ← whole]
        simp [chars, List.takeWhile_append_dropWhile]
      · -- A gap follows the first run, so a later run does not start right behind it.
        have apart : inner ≠ [] := by
          rintro rfl
          obtain ⟨filled, gapless⟩ := runsAfter_chars later
          obtain ⟨first, others, split⟩ := List.exists_cons_of_ne_nil filled
          have gap := stopped first (by simp [whole, split])
          rw [gapless first (by simp [split])] at gap
          cases gap
        rwa [List.getLast?_append, List.getLast?_eq_some_getLast apart, Option.some_or,
          ← List.getLast?_eq_some_getLast apart]

theorem mem_runs_iff {isGap : Char → Bool} {text : String} {run : Run} :
    run ∈ runs isGap text ↔ IsMaximal isGap text.toList run := by
  constructor
  · intro member
    obtain ⟨filled, gapless⟩ := runsAfter_chars member
    obtain ⟨inner, after, start, whole, left, right⟩ := bounded_of_mem_runsAfter member
    rw [List.nil_append] at start
    subst start
    exact ⟨filled, gapless, after, whole, left, right⟩
  · rintro ⟨filled, gapless, after, whole, left, right⟩
    have divided : run.before = [] ∨
        ∃ start gap, isGap gap = true ∧ run.before = start ++ [gap] := by
      rcases List.eq_nil_or_concat run.before with none | ⟨start, gap, split⟩
      · exact Or.inl none
      · rw [List.concat_eq_append] at split
        exact Or.inr ⟨start, gap, left gap (by simp [split]), split⟩
    rw [runs, whole, runsAfter_append right, runsAfter_append_gapless [] divided filled gapless]
    simp

private theorem ordered_runsAfter (isGap : Char → Bool) (before cs : List Char) :
    (runsAfter isGap before cs).Pairwise
      fun first second => first.before.length < second.before.length := by
  fun_induction runsAfter isGap before cs with
  | case1 => exact List.Pairwise.nil
  | case2 before c rest gap ih => exact ih
  | case3 before c rest solid chars ih =>
    refine List.pairwise_cons.mpr ⟨fun run later => ?_, ih⟩
    obtain ⟨inner, _, start, _⟩ := bounded_of_mem_runsAfter later
    have nonempty : 0 < chars.length := by simp [chars]
    simp only [start, List.length_append]
    omega

theorem maximalRuns_runs (isGap : Char → Bool) (text : String) :
    MaximalRuns isGap text.toList (runs isGap text) :=
  ⟨fun _ => mem_runs_iff, ordered_runsAfter isGap [] text.toList⟩

/-- A run is what its text has in the bytes from its offset on. -/
theorem extract_offset {isGap : Char → Bool} {text : String} {run : Run}
    (member : run ∈ runs isGap text) :
    text.toUTF8.extract run.offset (run.offset + run.text.utf8ByteSize) = run.text.toUTF8 := by
  obtain ⟨_, _, after, whole, _⟩ := mem_runs_iff.mp member
  have pieces : text = String.ofList run.before ++ run.text ++ String.ofList after := by
    apply String.toList_inj.mp
    simpa [Run.text] using whole
  have skipped (first second : ByteArray) (size : Nat) :
      (first ++ second).extract first.size (first.size + size) = second.extract 0 size := by
    have shifted := ByteArray.extract_append_size_add (a := first) (b := second) (i := 0)
      (j := size)
    rwa [Nat.add_zero] at shifted
  rw [Run.offset, pieces]
  simp only [String.toUTF8_eq_toByteArray, String.toByteArray_append, ByteArray.append_assoc]
  exact (skipped _ _ _).trans (ByteArray.extract_append_eq_left rfl)

end DtoScaffold.Text
