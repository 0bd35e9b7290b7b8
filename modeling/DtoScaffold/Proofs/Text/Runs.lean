import DtoScaffold.Text.Run
import Mathlib.Data.List.DropRight
import Mathlib.Data.List.TakeWhile

/-!
# Splitting at gaps and joining again

A gap divides the runs of a text into those before it and those after it. A text that holds pieces
without gaps, with gaps between them, therefore has exactly these pieces as its runs, however many
gaps there are. So joining pieces by a gap loses nothing.
-/
namespace DtoScaffold.Text

/-- A text that is a single run: it holds a character at least, and no gap. -/
structure Solid (isGap : Char → Bool) (text : String) : Prop where
  nonempty : text.toList ≠ []
  gapless : ∀ c ∈ text.toList, isGap c = false

theorem Solid.narrow {isGap isNarrowGap : Char → Bool} {text : String} (solid : Solid isGap text)
    (narrower : ∀ c, isNarrowGap c = true → isGap c = true) : Solid isNarrowGap text := by
  refine ⟨solid.nonempty, fun c inside => ?_⟩
  apply Bool.eq_false_iff.mpr
  intro gap
  have wide := narrower c gap
  simp [solid.gapless c inside] at wide

theorem solid_of_mem_runs {isGap : Char → Bool} {text : String} {run : Run}
    (member : run ∈ runs isGap text) : Solid isGap run.text := by
  have chars := runsAfter_chars member
  exact ⟨by simpa [Run.text] using chars.1, by simpa [Run.text] using chars.2⟩

theorem solid_of_mem_segments {text segment : String} (member : segment ∈ segments text) :
    Solid isSlash segment := by
  obtain ⟨run, inside, rfl⟩ := List.mem_map.mp member
  exact solid_of_mem_runs inside

/-- What stands before the first gap does not depend on what follows the gap. -/
private theorem before_gap {isGap : Char → Bool} {gap : Char} (isGap_gap : isGap gap = true)
    (cs rest : List Char) :
    (cs ++ gap :: rest).takeWhile (!isGap ·) = cs.takeWhile (!isGap ·) ∧
      (cs ++ gap :: rest).dropWhile (!isGap ·) = cs.dropWhile (!isGap ·) ++ gap :: rest := by
  induction cs with
  | nil => simp [isGap_gap]
  | cons c cs ih => cases first : isGap c <;> simp [first, ih.1, ih.2]

/-- The runs of a text are those before a gap and then those after it. -/
theorem runsAfter_append_gap {isGap : Char → Bool} {gap : Char} (isGap_gap : isGap gap = true)
    (before cs rest : List Char) :
    runsAfter isGap before (cs ++ gap :: rest) =
      runsAfter isGap before cs ++ runsAfter isGap (before ++ cs ++ [gap]) rest := by
  fun_induction runsAfter isGap before cs with
  | case1 before =>
    rw [List.nil_append, runsAfter, if_pos isGap_gap]
    simp
  | case2 before c cs first ih =>
    rw [List.cons_append, runsAfter, if_pos first, ih]
    simp
  | case3 before c cs first chars ih =>
    -- The first run ends at the gap at the latest, so the gap is among what is left after it.
    obtain ⟨taken, dropped⟩ := before_gap isGap_gap cs rest
    have whole : chars ++ cs.dropWhile (!isGap ·) = c :: cs := by
      simp [chars, List.takeWhile_append_dropWhile]
    rw [List.cons_append, runsAfter, if_neg first, taken, dropped]
    simp only [chars] at ih whole ⊢
    rw [ih, List.append_assoc before, whole, List.cons_append]

theorem runsAfter_of_gapless {isGap : Char → Bool} {cs : List Char} (before : List Char)
    (nonempty : cs ≠ []) (gapless : ∀ c ∈ cs, isGap c = false) :
    runsAfter isGap before cs = [⟨before, cs⟩] := by
  cases cs with
  | nil => exact absurd rfl nonempty
  | cons c rest =>
    have first := gapless c (by simp)
    have kept : ∀ x ∈ rest, (!isGap x) = true := by
      intro x inside
      simp [gapless x (by simp [inside])]
    have taken : rest.takeWhile (!isGap ·) = rest := List.takeWhile_eq_self_iff.mpr kept
    have dropped : rest.dropWhile (!isGap ·) = [] := List.dropWhile_eq_nil_iff.mpr kept
    rw [runsAfter]
    simp [first, taken, dropped, runsAfter]

theorem runsAfter_append_last {isGap : Char → Bool} {gap : Char} (isGap_gap : isGap gap = true)
    (before cs : List Char) :
    runsAfter isGap before (cs ++ [gap]) = runsAfter isGap before cs := by
  rw [runsAfter_append_gap isGap_gap]
  simp [runsAfter]

/-- Characters without a gap that follow a gap, or nothing, are a run of their own. -/
theorem runsAfter_append_gapless {isGap : Char → Bool} {cs name : List Char} (before : List Char)
    (divided : cs = [] ∨ ∃ start gap, isGap gap = true ∧ cs = start ++ [gap])
    (nonempty : name ≠ []) (gapless : ∀ c ∈ name, isGap c = false) :
    runsAfter isGap before (cs ++ name) = runsAfter isGap before cs ++ [⟨before ++ cs, name⟩] := by
  rcases divided with rfl | ⟨start, gap, isGap_gap, rfl⟩
  · simp [runsAfter_of_gapless before nonempty gapless, runsAfter]
  · rw [runsAfter_append_last isGap_gap, List.append_assoc, List.singleton_append,
      runsAfter_append_gap isGap_gap, runsAfter_of_gapless _ nonempty gapless, List.append_assoc]

/-- Characters without a gap that end a text end its last run. -/
theorem exists_last_run {isGap : Char → Bool} {text : String} {ending : List Char}
    (ends : ending <:+ text.toList) (filled : ending ≠ [])
    (gapless : ∀ c ∈ ending, isGap c = false) :
    ∃ earlier last, runs isGap text = earlier ++ [last] ∧ ending <:+ last.chars := by
  obtain ⟨start, whole⟩ := ends
  -- The last run goes back to the last gap before the end.
  have split : start.rdropWhile (!isGap ·) ++ start.rtakeWhile (!isGap ·) = start :=
    List.rdropWhile_append_rtakeWhile
  have divided : start.rdropWhile (!isGap ·) = [] ∨
      ∃ before gap, isGap gap = true ∧ start.rdropWhile (!isGap ·) = before ++ [gap] := by
    rcases List.eq_nil_or_concat (start.rdropWhile (!isGap ·)) with none | ⟨before, gap, last⟩
    · exact Or.inl none
    · have stopped := List.rdropWhile_last_not (!isGap ·) start (by simp [last])
      simp only [last, List.concat_eq_append, List.getLast_append_singleton] at stopped
      exact Or.inr ⟨before, gap, by simpa using stopped, by simpa using last⟩
  have solid : ∀ c ∈ start.rtakeWhile (!isGap ·) ++ ending, isGap c = false := by
    intro c inside
    rcases List.mem_append.mp inside with before | after
    · simpa using List.mem_rtakeWhile_imp before
    · exact gapless c after
  refine ⟨runs isGap (String.ofList (start.rdropWhile (!isGap ·))),
    ⟨start.rdropWhile (!isGap ·), start.rtakeWhile (!isGap ·) ++ ending⟩, ?_,
    List.suffix_append _ _⟩
  rw [runs, ← whole, ← split, List.append_assoc,
    runsAfter_append_gapless [] divided (by simp [filled]) solid]
  simp [runs]

/-- What follows a gap, or nothing, does not depend on what stands before it. -/
theorem runsAfter_append {isGap : Char → Bool} {rest : List Char}
    (divided : ∀ c ∈ rest.head?, isGap c = true) (before cs : List Char) :
    runsAfter isGap before (cs ++ rest) =
      runsAfter isGap before cs ++ runsAfter isGap (before ++ cs) rest := by
  cases rest with
  | nil => simp [runsAfter]
  | cons gap rest =>
    have isGap_gap := divided gap rfl
    have skipped : runsAfter isGap (before ++ cs) (gap :: rest) =
        runsAfter isGap (before ++ cs ++ [gap]) rest := by
      rw [runsAfter, if_pos isGap_gap]
    rw [runsAfter_append_gap isGap_gap, skipped]

theorem runsAfter_gaps {isGap : Char → Bool} {gaps : List Char}
    (blank : ∀ c ∈ gaps, isGap c = true) (before rest : List Char) :
    runsAfter isGap before (gaps ++ rest) = runsAfter isGap (before ++ gaps) rest := by
  induction gaps generalizing before with
  | nil => simp
  | cons c gaps ih =>
    rw [List.cons_append, runsAfter, if_pos (blank c List.mem_cons_self),
      ih fun x inside => blank x (List.mem_cons_of_mem _ inside)]
    simp

/-- Pieces in their order with gaps of any length before, between and behind them. Between two
pieces stands at least one gap. -/
inductive Spaced (isGap : Char → Bool) : List String → String → Prop
  | gaps {text : String} (blank : ∀ c ∈ text.toList, isGap c = true) : Spaced isGap [] text
  | piece {before piece rest : String} {pieces : List String}
      (blank : ∀ c ∈ before.toList, isGap c = true) (later : Spaced isGap pieces rest)
      (divided : pieces = [] ∨ ∃ c ∈ rest.toList.head?, isGap c = true) :
      Spaced isGap (piece :: pieces) (before ++ piece ++ rest)

namespace Spaced

variable {isGap : Char → Bool}

/-- Wherever the gaps stand and whatever they are, the runs of a text are the pieces. -/
private theorem text_runsAfter {pieces : List String} {text : String}
    (spaced : Spaced isGap pieces text) (solid : ∀ piece ∈ pieces, Solid isGap piece)
    (before : List Char) : (runsAfter isGap before text.toList).map Run.text = pieces := by
  induction spaced generalizing before with
  | @gaps text blank =>
    have skipped := runsAfter_gaps blank before []
    rw [List.append_nil] at skipped
    simp [skipped, runsAfter]
  | @piece gaps piece rest pieces blank later divided ih =>
    have first := solid piece List.mem_cons_self
    -- After the last piece come gaps only, so what follows a piece starts with a gap in any case.
    have ended : ∀ c ∈ rest.toList.head?, isGap c = true := by
      rcases divided with rfl | ⟨gap, isHead, isGap_gap⟩
      · cases later with
        | gaps blank => exact fun c isHead => blank c (List.mem_of_mem_head? isHead)
      · intro c sameHead
        rwa [Option.mem_unique sameHead isHead]
    rw [String.toList_append, String.toList_append, List.append_assoc, runsAfter_gaps blank,
      runsAfter_append ended, runsAfter_of_gapless _ first.nonempty first.gapless, List.map_append,
      ih fun other inside => solid other (List.mem_cons_of_mem _ inside)]
    simp [Run.text]

theorem text_runs {pieces : List String} {text : String} (spaced : Spaced isGap pieces text)
    (solid : ∀ piece ∈ pieces, Solid isGap piece) : (runs isGap text).map Run.text = pieces :=
  text_runsAfter spaced solid []

theorem prepend {gaps : String} (blank : ∀ c ∈ gaps.toList, isGap c = true) {pieces : List String}
    {text : String} (spaced : Spaced isGap pieces text) : Spaced isGap pieces (gaps ++ text) := by
  cases spaced with
  | gaps others =>
    apply Spaced.gaps
    simpa [or_imp, forall_and] using ⟨blank, others⟩
  | @piece before piece rest pieces others later divided =>
    rw [← String.append_assoc, ← String.append_assoc]
    refine .piece ?_ later divided
    simpa [or_imp, forall_and] using ⟨blank, others⟩

end Spaced

section
variable {isGap : Char → Bool} {separator : String} (gap : Char) (isGap_gap : isGap gap = true)

include isGap_gap

theorem spaced_intercalate (single : separator.toList = [gap]) (pieces : List String) :
    Spaced isGap pieces (separator.intercalate pieces) := by
  have blank : ∀ c ∈ separator.toList, isGap c = true := by simpa [single] using isGap_gap
  induction pieces with
  | nil => exact .gaps (by simp)
  | cons piece rest ih =>
    have start : ∀ c ∈ "".toList, isGap c = true := by simp
    cases rest with
    | nil => simpa using Spaced.piece start ih (Or.inl rfl)
    | cons next rest =>
      -- The separator is the gap that divides the piece from the next one.
      have divided : Spaced isGap (piece :: next :: rest)
          ("" ++ piece ++ (separator ++ separator.intercalate (next :: rest))) :=
        .piece start (ih.prepend blank) (Or.inr ⟨gap, by simp [single], isGap_gap⟩)
      rwa [String.empty_append, ← String.append_assoc, ← String.intercalate_cons_cons] at divided

/-- Pieces without gaps that a gap joins are the runs of the joined text. -/
theorem runs_intercalate (single : separator.toList = [gap]) {pieces : List String}
    (solid : ∀ piece ∈ pieces, Solid isGap piece) :
    (runs isGap (separator.intercalate pieces)).map Run.text = pieces :=
  (spaced_intercalate gap isGap_gap single pieces).text_runs solid

theorem intercalate_inj (single : separator.toList = [gap]) {left right : List String}
    (solidLeft : ∀ piece ∈ left, Solid isGap piece)
    (solidRight : ∀ piece ∈ right, Solid isGap piece) :
    separator.intercalate left = separator.intercalate right ↔ left = right := by
  constructor
  · intro joined
    have split := runs_intercalate gap isGap_gap single solidLeft
    rw [joined, runs_intercalate gap isGap_gap single solidRight] at split
    exact split.symm
  · intro same
    rw [same]

end

/-- What holds of the elements of the separator and of all pieces holds of those of the joined
list. -/
theorem forall_mem_intercalate {α : Type} {Holds : α → Prop} {separator : List α}
    (between : ∀ x ∈ separator, Holds x) {pieces : List (List α)}
    (each : ∀ piece ∈ pieces, ∀ x ∈ piece, Holds x) :
    ∀ x ∈ separator.intercalate pieces, Holds x := by
  induction pieces with
  | nil => simp
  | cons piece rest ih =>
    have first := each piece List.mem_cons_self
    have later := ih fun other member => each other (List.mem_cons_of_mem _ member)
    cases rest with
    | nil => simpa using first
    | cons next rest =>
      rw [List.intercalate_cons_cons]
      simpa only [List.forall_mem_append] using ⟨⟨first, between⟩, later⟩

/-- The run in its text when the characters `front` stand before the text. -/
def Run.behind (front : List Char) (run : Run) : Run :=
  ⟨front ++ run.before, run.chars⟩

theorem Run.offset_behind (front : String) (run : Run) :
    (run.behind front.toList).offset = run.offset + front.utf8ByteSize := by
  simp [Run.behind, Run.offset, String.ofList_append, Nat.add_comm]

/-- What stands before a text moves its runs and does nothing else. -/
theorem runsAfter_eq_map (isGap : Char → Bool) (front before cs : List Char) :
    runsAfter isGap (front ++ before) cs = (runsAfter isGap before cs).map (Run.behind front) := by
  fun_induction runsAfter isGap before cs with
  | case1 before => simp [runsAfter]
  | case2 before c rest gap ih => rw [runsAfter, if_pos gap, ← ih, List.append_assoc]
  | case3 before c rest solid chars ih =>
    rw [runsAfter, if_neg solid, List.map_cons, ← ih, ← List.append_assoc]
    rfl

/-- The runs of two texts with gaps between them are the runs of both, those of the second moved. -/
theorem runs_append_gaps {isGap : Char → Bool} {gaps : String} (filled : gaps ≠ "")
    (blank : ∀ c ∈ gaps.toList, isGap c = true) (first second : String) :
    runs isGap (first ++ gaps ++ second) =
      runs isGap first ++ (runs isGap second).map (Run.behind (first ++ gaps).toList) := by
  obtain ⟨gap, others, chars⟩ := List.exists_cons_of_ne_nil (mt String.toList_eq_nil_iff.mp filled)
  have divided : ∀ c ∈ (gaps.toList ++ second.toList).head?, isGap c = true := by
    simpa [chars] using blank gap (by simp [chars])
  have moved := runsAfter_eq_map isGap (first ++ gaps).toList [] second.toList
  rw [List.append_nil] at moved
  rw [runs, String.toList_append, String.toList_append, List.append_assoc,
    runsAfter_append divided, List.nil_append, runsAfter_gaps blank, ← String.toList_append, moved]
  rfl

end DtoScaffold.Text
