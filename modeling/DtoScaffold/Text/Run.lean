/-!
# Runs between gaps

A run is a maximal stretch of characters that are not gaps. Property tokens are the runs between
blanks; the segments of names, namespaces and directories are the runs between slashes of either
kind. A run keeps the characters before it, so its position in the text is not lost.
-/
namespace DtoScaffold.Text

/-- A maximal stretch of a text without gaps, with all characters of the text before it. -/
structure Run where
  before : List Char
  chars : List Char
  deriving DecidableEq, Repr

namespace Run

def text (run : Run) : String :=
  String.ofList run.chars

/-- The position of the run in bytes of UTF-8. -/
def offset (run : Run) : Nat :=
  (String.ofList run.before).utf8ByteSize

def upTo (run : Run) : String :=
  String.ofList (run.before ++ run.chars)

end Run

/-- The runs of `cs` when the characters `before` precede it. -/
def runsAfter (isGap : Char → Bool) (before : List Char) (cs : List Char) : List Run :=
  match cs with
  | [] => []
  | c :: rest =>
    if isGap c then runsAfter isGap (before ++ [c]) rest
    else
      let chars := c :: rest.takeWhile (!isGap ·)
      ⟨before, chars⟩ :: runsAfter isGap (before ++ chars) (rest.dropWhile (!isGap ·))
termination_by cs.length
decreasing_by
  · simp
  · have shorter := (List.dropWhile_sublist (l := rest) (!isGap ·)).length_le
    simp only [List.length_cons]
    omega

/-- A run holds a character at least, and no gap. -/
theorem runsAfter_chars {isGap : Char → Bool} {before cs : List Char} {run : Run}
    (member : run ∈ runsAfter isGap before cs) :
    run.chars ≠ [] ∧ ∀ c ∈ run.chars, isGap c = false := by
  fun_induction runsAfter isGap before cs with
  | case1 => simp at member
  | case2 before c rest gap ih => exact ih member
  | case3 before c rest solid chars ih =>
    rcases List.mem_cons.mp member with rfl | later
    · refine ⟨by simp [chars], fun x inside => ?_⟩
      rcases List.mem_cons.mp inside with rfl | inside
      · simpa using solid
      · have kept := List.all_eq_true.mp List.all_takeWhile x inside
        simpa using kept
    · exact ih later

def runs (isGap : Char → Bool) (text : String) : List Run :=
  runsAfter isGap [] text.toList

/-- The separators between segments; both kinds are equal. -/
def isSlash (c : Char) : Bool :=
  c == '/' || c == '\\'

/-- The non-empty pieces of a text between slashes. -/
def segments (text : String) : List String :=
  (runs isSlash text).map Run.text

end DtoScaffold.Text
