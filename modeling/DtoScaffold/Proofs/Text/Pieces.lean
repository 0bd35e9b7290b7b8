import DtoScaffold.Proofs.Text.Runs

/-!
# Pieces between gaps

The runs of a text are what is left when it is split at every gap and the empty parts are dropped.
-/
namespace DtoScaffold.Text

/-- The parts of a text between its gaps, without the empty ones. -/
def pieces (isGap : Char → Bool) (text : String) : List String :=
  ((text.toList.splitOnP isGap).filter (· ≠ [])).map String.ofList

private theorem chars_runsAfter (isGap : Char → Bool) (before cs : List Char) :
    (runsAfter isGap before cs).map Run.chars = (cs.splitOnP isGap).filter (· ≠ []) := by
  fun_induction runsAfter isGap before cs with
  | case1 => rfl
  | case2 before c rest gap ih => simp [List.splitOnP_cons_eq_if_modifyHead, gap, ih]
  | case3 before c rest solid chars ih =>
    have gapless : ∀ x ∈ chars, isGap x = false := by
      intro x inside
      rcases List.mem_cons.mp inside with rfl | inside
      · simpa using solid
      · simpa using List.mem_takeWhile_imp inside
    have whole : c :: rest = chars ++ rest.dropWhile (!isGap ·) := by
      simp [chars, List.takeWhile_append_dropWhile]
    rw [List.map_cons, ih, whole]
    -- What follows the run is nothing, or it starts with the gap that splits the text here.
    cases remaining : rest.dropWhile (!isGap ·) with
    | nil => simp [List.splitOnP_eq_singleton gapless, chars]
    | cons gap later =>
      have isGap_gap : isGap gap = true := by
        have stopped := List.head?_dropWhile_not (!isGap ·) rest
        simpa [remaining] using stopped
      rw [List.splitOnP_append_cons_of_forall_mem gapless gap isGap_gap, List.splitOnP_cons_eq_if_modifyHead]
      simp [isGap_gap, chars]

theorem map_text_runs (isGap : Char → Bool) (text : String) :
    (runs isGap text).map Run.text = pieces isGap text := by
  rw [pieces, ← chars_runsAfter isGap [] text.toList, List.map_map]
  rfl

theorem segments_eq_pieces (text : String) : segments text = pieces isSlash text :=
  map_text_runs isSlash text

end DtoScaffold.Text
