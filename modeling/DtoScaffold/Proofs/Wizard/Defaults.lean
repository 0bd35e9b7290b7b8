import DtoScaffold.Proofs.Text.Paint
import DtoScaffold.Proofs.Wizard.Collected

/-!
# Defaults

A question shows its default in brackets, and an empty answer stands for it. Main statement: where
the prompt shows a default, an empty line does what a line with this default does. The default may
be rejected, and then both lines are, for the same reason.
-/
namespace DtoScaffold

open Text

/-- The text of the question that is asked in a phase. -/
def Phase.question : Phase → String
  | root => "Enter the root directory"
  | reference => "Enter the DTO name"
  | properties none => "New property name (press <return> to stop adding properties)"
  | properties (some _) => "Property type"
  | assembler => "Do you want to generate a Skeleton Assembler class"
  | done => ""

/-- The mark behind the question of a phase. -/
def Phase.mark : Phase → String
  | assembler => "?"
  | _ => ":"

/-- A question with a default in brackets. -/
def bracketed (colored : Bool) (text default mark : String) : String :=
  painted colored .green text ++ " [" ++ painted colored .yellow default ++ "]" ++ mark ++ " "

/-- A question shows its default exactly when it has one that is not empty. -/
theorem questionText_eq_bracketed_iff {colored : Bool} {text default mark : String}
    {given : Option String} (marked : mark = ":" ∨ mark = "?") :
    questionText colored text given mark = bracketed colored text default mark ↔
      given = some default ∧ default ≠ "" := by
  have different (rest : String) : mark ++ " " ≠ " [" ++ rest := by
    intro same
    have firsts := congrArg (fun text => text.toList.head?) same
    rcases marked with rfl | rfl <;> simp at firsts
  unfold questionText bracketed
  dsimp only
  split
  · simp [toString, String.append_assoc, different]
  · simp [toString, String.append_assoc, different]
  next shown filled =>
    have told : painted colored .yellow shown = painted colored .yellow default ↔
        shown = default := (painted_injective colored .yellow).eq_iff
    simp only [toString, String.append_assoc, String.append_right_inj, String.append_left_inj, told,
      Option.some.injEq]
    constructor
    · rintro rfl
      exact ⟨rfl, filled⟩
    · exact And.left

namespace Wizard

/-- The default of the question that is asked, if there is one. -/
def default? (wizard : Wizard) : Option String :=
  match wizard.phase with
  | .root => some wizard.root
  | .reference => wizard.defaultReference
  | .properties (some name) => some (inferType name)
  | .assembler => some (choiceLine wizard.withAssembler)
  | _ => none

theorem prompt_eq {wizard : Wizard} (asks : wizard.phase ≠ .done) (colored : Bool) :
    wizard.prompt colored =
      questionText colored wizard.phase.question wizard.default? wizard.phase.mark := by
  unfold prompt default?
  cases asked : wizard.phase with
  | properties pending => cases pending <;> rfl
  | done => exact absurd asked asks
  | _ => rfl

/-- The prompt shows a text in brackets as the default of the question that is asked. -/
def Shows (colored : Bool) (wizard : Wizard) (default : String) : Prop :=
  wizard.prompt colored = bracketed colored wizard.phase.question default wizard.phase.mark

theorem shows_iff {colored : Bool} {wizard : Wizard} {default : String} :
    wizard.Shows colored default ↔ wizard.default? = some default ∧ default ≠ "" := by
  have marked : wizard.phase.mark = ":" ∨ wizard.phase.mark = "?" := by
    cases wizard.phase <;> simp [Phase.mark]
  by_cases done : wizard.phase = .done
  · simp [Shows, prompt, default?, bracketed, done]
  · rw [Shows, prompt_eq done, questionText_eq_bracketed_iff marked]

variable {resolve : Resolver} {taken : Path → Bool} {wizard : Wizard} {default : String}

/-- The default reference stands for an empty answer, with or without the blanks around it. -/
theorem acceptReference_default (shown : wizard.defaultReference = some default) :
    wizard.acceptReference resolve taken (trim default) =
      wizard.acceptReference resolve taken "" := by
  unfold acceptReference
  by_cases empty : (trim default).isEmpty = true
  · simp [empty, shown]
  · simp [empty, shown, acceptDtoName_trim]

theorem acceptConfirmation_choiceLine (withAssembler : Bool) :
    acceptConfirmation (choiceLine withAssembler) withAssembler =
      acceptConfirmation "" withAssembler := by
  cases withAssembler <;> rfl

/-- Only the root directory is taken without a check, so only there blanks make a difference. -/
theorem advance_default (given : wizard.default? = some default) (past : wizard.phase ≠ .root)
    {blank line : String} (empty : trim blank = "") (typed : trim line = trim default) :
    wizard.advance resolve taken blank = wizard.advance resolve taken line := by
  cases asked : wizard.phase with
  | root => exact absurd asked past
  | reference =>
    have shown : wizard.defaultReference = some default := by simpa [default?, asked] using given
    simp only [advance, asked, empty, typed, acceptReference_default shown]
  | properties pending =>
    cases pending with
    | none => simp [default?, asked] at given
    | some name =>
      -- A suggested type has no blanks around it, so trimming the line gives it back.
      obtain rfl : inferType name = default := by simpa [default?, asked] using given
      have bare := bare_inferType name
      have kept : trim (inferType name) = inferType name := trim_of_ends bare.first bare.last
      simp [advance, asked, empty, typed, kept, bare.filled]
  | assembler =>
    obtain rfl : choiceLine wizard.withAssembler = default := by
      simpa [default?, asked] using given
    have kept : trim (choiceLine wizard.withAssembler) = choiceLine wizard.withAssembler := by
      cases wizard.withAssembler <;> rfl
    simp only [advance, asked, empty, typed, kept, acceptConfirmation_choiceLine]
  | done => simp [default?, asked] at given

/-- The wizards differ at most in blanks around the root directory. -/
def SameButBlanks (first second : Wizard) : Prop :=
  { first with root := trim first.root } = { second with root := trim second.root }

theorem advance_default_root (asked : wizard.phase = .root) {blank line : String}
    (empty : trim blank = "") (typed : trim line = trim wizard.root) :
    (wizard.advance resolve taken blank).1 = (wizard.advance resolve taken line).1 ∧
      SameButBlanks (wizard.advance resolve taken blank).2
        (wizard.advance resolve taken line).2 := by
  -- A root of blanks only is an empty answer itself and leaves the root as it is.
  by_cases blanks : (trim wizard.root).isEmpty = true
  · simp [advance, asked, empty, typed, blanks, SameButBlanks]
  · simp [advance, asked, empty, typed, blanks, SameButBlanks, trim_trim]

/-- Where a wizard shows a default, an empty line and a line with the default are both accepted or
both rejected for the same reason, and lead to the same wizard. Only blanks around a default root
directory are kept by the empty line and lost by the other one. -/
theorem shown_default_is_taken (resolve : Resolver) (taken : Path → Bool) {colored : Bool}
    {wizard : Wizard} {default : String} (shown : wizard.Shows colored default)
    {blank line : String} (empty : trim blank = "") (typed : trim line = trim default) :
    let byDefault := wizard.advance resolve taken blank
    let byLine := wizard.advance resolve taken line
    byDefault.1 = byLine.1 ∧ SameButBlanks byDefault.2 byLine.2 ∧
      (wizard.phase ≠ .root → byDefault = byLine) := by
  intro byDefault byLine
  have given := (shows_iff.mp shown).1
  by_cases asked : wizard.phase = .root
  · obtain rfl : wizard.root = default := by simpa [default?, asked] using given
    obtain ⟨verdict, after⟩ := advance_default_root asked empty typed
    exact ⟨verdict, after, fun past => absurd asked past⟩
  · have same : byDefault = byLine := advance_default given asked empty typed
    rw [SameButBlanks, same]
    exact ⟨rfl, rfl, fun _ => rfl⟩

/-- A root directory between blanks, and a default reference that is rejected for its suffix. -/
theorem shown_default_is_taken_post :
    let resolve := (Registry.ofList [.named "App" ⟨"/srv/app"⟩ "App"]).resolve
    let first := start ⟨" Entity ", some " App:Post", .empty, true⟩
    let second := first.answerAll resolve Memory.empty.taken ["Model"]
    let rejected := InputRejection.invalid (.missingDtoSuffix "App:Post")
    first.prompt false = "Enter the root directory [ Entity ]: " ∧
      second.prompt false = "Enter the DTO name [ App:Post]: " ∧
      trim " Entity \n" = trim " Entity " ∧ trim "\n" = "" ∧
      SameButBlanks (first.advance resolve Memory.empty.taken "\n").2
        (first.advance resolve Memory.empty.taken " Entity \n").2 ∧
      second.advance resolve Memory.empty.taken "" = (.error rejected, second) ∧
      second.advance resolve Memory.empty.taken " App:Post" = (.error rejected, second) := by
  intro resolve first second rejected
  have shownRoot : first.Shows false " Entity " := by rfl
  have shownReference : second.Shows false " App:Post" := by rfl
  have asked : second.phase ≠ .root := by decide
  have typed : trim " Entity \n" = trim " Entity " := by rfl
  have empty : trim "\n" = "" := by rfl
  have emptyToo : trim "" = "" := by rfl
  have byDefault : second.advance resolve Memory.empty.taken "" = (.error rejected, second) := by
    decide +kernel
  obtain ⟨_, after, _⟩ :=
    shown_default_is_taken resolve Memory.empty.taken shownRoot empty typed
  obtain ⟨_, _, same⟩ :=
    shown_default_is_taken resolve Memory.empty.taken shownReference emptyToo rfl
  exact ⟨shownRoot, shownReference, typed, empty, after, byDefault, (same asked) ▸ byDefault⟩

end Wizard

end DtoScaffold
