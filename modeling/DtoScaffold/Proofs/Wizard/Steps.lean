import DtoScaffold.Proofs.Property.Lists
import DtoScaffold.Wizard.Basic

/-!
# What an answer does to the wizard

A line of input is accepted or rejected at the question that the wizard is at. The steps below are
all that can happen. The wizard only asks for the type of a property that its list admits, so the
answer to that question is never rejected, and a rejected answer changes nothing at any question.
-/
namespace DtoScaffold

open Text

/-- The place of a phase in the order of the questions. A name and its type are one place. -/
def Phase.rank : Phase → Nat
  | root => 0
  | reference => 1
  | properties _ => 2
  | assembler => 3
  | done => 4

namespace Wizard

/-- What an answer, without the blanks around it, does to a wizard. -/
inductive Step (resolve : Resolver) (taken : Path → Bool) (wizard : Wizard) (answer : String) :
    Except InputRejection Unit → Wizard → Prop
  | root (asked : wizard.phase = .root) :
    Step resolve taken wizard answer (.ok ())
      { wizard with root := if answer.isEmpty then wizard.root else answer, phase := .reference }
  | reference (identity : ClassIdentity) (asked : wizard.phase = .reference)
    (accepted : wizard.acceptReference resolve taken answer = .ok identity) :
    Step resolve taken wizard answer (.ok ())
      { wizard with identity := some identity, phase := .properties none }
  | noReference (rejection : InputRejection) (asked : wizard.phase = .reference)
    (refused : wizard.acceptReference resolve taken answer = .error rejection) :
    Step resolve taken wizard answer (.error rejection) wizard
  | stop (asked : wizard.phase = .properties none) (empty : answer.isEmpty = true) :
    Step resolve taken wizard answer (.ok ()) { wizard with phase := .assembler }
  | name (name : String) (asked : wizard.phase = .properties none)
    (nonempty : answer.isEmpty = false)
    (accepted : acceptPropertyName wizard.properties answer = .ok name) :
    Step resolve taken wizard answer (.ok ()) { wizard with phase := .properties (some name) }
  | noName (rejection : Rejection) (asked : wizard.phase = .properties none)
    (nonempty : answer.isEmpty = false)
    (refused : acceptPropertyName wizard.properties answer = .error rejection) :
    Step resolve taken wizard answer (.error (.invalid rejection)) wizard
  | type (name : String) (longer : PropertyList) (asked : wizard.phase = .properties (some name))
    (added : wizard.properties.add name (if answer.isEmpty then inferType name else answer) =
      .ok longer) :
    Step resolve taken wizard answer (.ok ())
      { wizard with properties := longer, phase := .properties none }
  /-- The only rejection that changes the wizard: the name is taken back. -/
  | noType (name : String) (error : PropertyError)
    (asked : wizard.phase = .properties (some name))
    (refused : wizard.properties.add name (if answer.isEmpty then inferType name else answer) =
      .error error) :
    Step resolve taken wizard answer (.error (.property error))
      { wizard with phase := .properties none }
  | choice (withAssembler : Bool) (asked : wizard.phase = .assembler)
    (accepted : acceptConfirmation answer wizard.withAssembler = .ok withAssembler) :
    Step resolve taken wizard answer (.ok ()) { wizard with withAssembler, phase := .done }
  | noChoice (rejection : Rejection) (asked : wizard.phase = .assembler)
    (refused : acceptConfirmation answer wizard.withAssembler = .error rejection) :
    Step resolve taken wizard answer (.error (.invalid rejection)) wizard
  | done (asked : wizard.phase = .done) : Step resolve taken wizard answer (.ok ()) wizard

variable (resolve : Resolver) (taken : Path → Bool)

theorem step_advance (wizard : Wizard) (line : String) :
    Step resolve taken wizard (trim line) (wizard.advance resolve taken line).1
      (wizard.advance resolve taken line).2 := by
  cases asked : wizard.phase with
  | root =>
    simp only [advance, asked]
    exact .root asked
  | reference =>
    cases verdict : wizard.acceptReference resolve taken (trim line) with
    | ok identity =>
      simp only [advance, asked, verdict]
      exact .reference identity asked verdict
    | error rejection =>
      simp only [advance, asked, verdict]
      exact .noReference rejection asked verdict
  | properties pending =>
    -- One phase asks two questions, which a pending name tells apart.
    cases pending with
    | none =>
      cases empty : (trim line).isEmpty with
      | true =>
        simp only [advance, asked, empty, if_true]
        exact .stop asked empty
      | false =>
        cases verdict : acceptPropertyName wizard.properties (trim line) with
        | ok name =>
          simp only [advance, asked, empty, verdict, Bool.false_eq_true, if_false]
          exact .name name asked empty verdict
        | error rejection =>
          simp only [advance, asked, empty, verdict, Bool.false_eq_true, if_false]
          exact .noName rejection asked empty verdict
    | some name =>
      cases verdict : wizard.properties.add name
          (if (trim line).isEmpty then inferType name else trim line) with
      | ok longer =>
        simp only [advance, asked, verdict]
        exact .type name longer asked verdict
      | error error =>
        simp only [advance, asked, verdict]
        exact .noType name error asked verdict
  | assembler =>
    cases verdict : acceptConfirmation (trim line) wizard.withAssembler with
    | ok withAssembler =>
      simp only [advance, asked, verdict]
      exact .choice withAssembler asked verdict
    | error rejection =>
      simp only [advance, asked, verdict]
      exact .noChoice rejection asked verdict
  | done =>
    simp only [advance, asked]
    exact .done asked

/-- The list admits the property whose type is asked for. -/
def Awaits (wizard : Wizard) : Prop :=
  ∀ name, wizard.phase = .properties (some name) → wizard.properties.admits name = true

theorem awaits_start (defaults : Defaults) : (start defaults).Awaits := by
  intro name asked
  cases asked

variable {resolve taken} {wizard after : Wizard} {answer : String}
  {verdict : Except InputRejection Unit}

namespace Step

/-- Only a name that the list admits is ever awaited. -/
theorem awaits (step : Step resolve taken wizard answer verdict after) (awaits : wizard.Awaits) :
    after.Awaits := by
  intro pending awaited
  cases step with
  | name name _ _ accepted =>
    cases awaited
    exact (acceptPropertyName_ok_iff.mp accepted).2
  | noReference => exact awaits pending awaited
  | noName => exact awaits pending awaited
  | noChoice => exact awaits pending awaited
  | done => exact awaits pending awaited
  | _ => cases awaited

/-- A rejected answer leaves the wizard as it was. -/
theorem unchanged {rejection : InputRejection}
    (step : Step resolve taken wizard answer (.error rejection) after) (awaits : wizard.Awaits) :
    after = wizard := by
  cases step with
  | noReference => rfl
  | noName => rfl
  | noType name error asked refused =>
    -- The list admits the name, so it cannot have refused the property.
    rw [PropertyList.add_of_admits (awaits name asked)] at refused
    cases refused
  | noChoice => rfl

theorem rank_le (step : Step resolve taken wizard answer verdict after) :
    wizard.phase.rank ≤ after.phase.rank := by
  cases step with
  | root asked => simp [asked, Phase.rank]
  | reference _ asked => simp [asked, Phase.rank]
  | stop asked => simp [asked, Phase.rank]
  | name _ asked => simp [asked, Phase.rank]
  | type _ _ asked => simp [asked, Phase.rank]
  | noType _ _ asked => simp [asked, Phase.rank]
  | choice _ asked => simp [asked, Phase.rank]
  | _ => exact Nat.le_refl _

end Step

theorem type_accepted {name : String} (awaits : wizard.Awaits)
    (asked : wizard.phase = .properties (some name)) (line : String) :
    (wizard.advance resolve taken line).1 = .ok () := by
  simp only [advance, asked, PropertyList.add_of_admits (awaits name asked)]

/-- The wizard after lines of input, whether they were accepted or not. -/
def answerAll (resolve : Resolver) (taken : Path → Bool) (wizard : Wizard) (lines : List String) :
    Wizard :=
  lines.foldl (fun wizard line => (wizard.advance resolve taken line).2) wizard

theorem answerAll_append (wizard : Wizard) (earlier later : List String) :
    wizard.answerAll resolve taken (earlier ++ later) =
      (wizard.answerAll resolve taken earlier).answerAll resolve taken later :=
  List.foldl_append

/-- What every step keeps is kept by a run. -/
theorem answerAll_induction {Kept : Wizard → Prop}
    (step : ∀ {wizard after : Wizard} {line : String} {verdict : Except InputRejection Unit},
      Step resolve taken wizard (trim line) verdict after → Kept wizard → Kept after)
    (base : Kept wizard) (lines : List String) :
    Kept (wizard.answerAll resolve taken lines) := by
  induction lines generalizing wizard with
  | nil => exact base
  | cons line rest ih => exact ih (step (step_advance resolve taken wizard line) base)

theorem awaits_answerAll (awaits : wizard.Awaits) (lines : List String) :
    (wizard.answerAll resolve taken lines).Awaits :=
  answerAll_induction Step.awaits awaits lines

theorem rank_answerAll (wizard : Wizard) (lines : List String) :
    wizard.phase.rank ≤ (wizard.answerAll resolve taken lines).phase.rank := by
  induction lines generalizing wizard with
  | nil => exact Nat.le_refl _
  | cons line rest ih => exact Nat.le_trans (step_advance resolve taken wizard line).rank_le (ih _)

/-- Whatever lines a wizard was given, a line that it rejects changes nothing, a property name whose
type it asks for can be added with every type, and it never goes back to an earlier question. -/
theorem answers_never_lead_back (resolve : Resolver) (taken : Path → Bool) (defaults : Defaults)
    (lines : List String) :
    let wizard := (start defaults).answerAll resolve taken lines
    (∀ line rejection, (wizard.advance resolve taken line).1 = .error rejection →
      (wizard.advance resolve taken line).2 = wizard) ∧
    (∀ name, wizard.phase = .properties (some name) →
      isPropertyName name = true ∧ wizard.properties.contains name = false ∧
        ∀ line, (wizard.advance resolve taken line).1 = .ok ()) ∧
    (∀ line, wizard.phase.rank ≤ (wizard.advance resolve taken line).2.phase.rank) ∧
    (∀ earlier later, lines = earlier ++ later →
      ((start defaults).answerAll resolve taken earlier).phase.rank ≤ wizard.phase.rank) := by
  intro wizard
  have awaits : wizard.Awaits := awaits_answerAll (awaits_start defaults) lines
  refine ⟨?_, ?_, ?_, ?_⟩
  · intro line rejection rejected
    have step := step_advance resolve taken wizard line
    rw [rejected] at step
    exact step.unchanged awaits
  · intro name asked
    obtain ⟨isName, new⟩ := PropertyList.admits_iff.mp (awaits name asked)
    exact ⟨isName, new, type_accepted awaits asked⟩
  · intro line
    exact (step_advance resolve taken wizard line).rank_le
  · intro earlier later split
    have whole : wizard =
        ((start defaults).answerAll resolve taken earlier).answerAll resolve taken later := by
      rw [← answerAll_append, ← split]
    rw [whole]
    exact rank_answerAll _ later

end Wizard

end DtoScaffold
