import DtoScaffold.Proofs.Generation.Planning
import DtoScaffold.Proofs.Wizard.Transcript

/-!
# From answers to plans

A wizard that has gone past its second question holds a class whose container is known and whose
file does not exist. It never looks for the file of the assembler, so this is the one target that
can still be taken when the answers are planned. Every other outcome of the questions has a plan.
-/
namespace DtoScaffold

open Text

namespace Wizard

variable {resolve : Resolver} {taken : Path → Bool} {wizard after : Wizard} {answer : String}
  {verdict : Except InputRejection Unit}

/-- The wizard holds a class that can be placed, as far as its own file goes. -/
structure Holds (resolve : Resolver) (taken : Path → Bool) (wizard : Wizard)
    (identity : ClassIdentity) (container : Container) : Prop where
  chosen : wizard.identity = some identity
  known : resolve identity.container = .ok container
  free : taken (ArtifactKind.main.target container identity wizard.root) = false

/-- Behind the question for it, a class is held. -/
def Settled (resolve : Resolver) (taken : Path → Bool) (wizard : Wizard) : Prop :=
  Phase.reference.rank < wizard.phase.rank →
    ∃ identity container, wizard.Holds resolve taken identity container

theorem settled_start (defaults : Defaults) : (start defaults).Settled resolve taken := by
  intro past
  simp [start, Phase.rank] at past

/-- A class is kept when neither it nor the root directory changes. -/
theorem Settled.keep (settled : wizard.Settled resolve taken)
    (past : Phase.reference.rank < wizard.phase.rank) (sameClass : after.identity = wizard.identity)
    (sameRoot : after.root = wizard.root) : after.Settled resolve taken := by
  intro _
  obtain ⟨identity, container, held⟩ := settled past
  exact ⟨identity, container, sameClass ▸ held.chosen, held.known, sameRoot ▸ held.free⟩

theorem Step.settled (step : Step resolve taken wizard answer verdict after)
    (settled : wizard.Settled resolve taken) : after.Settled resolve taken := by
  cases step with
  | root =>
    intro past
    simp [Phase.rank] at past
  | reference identity _ accepted =>
    obtain ⟨_, container, _, _, known, free⟩ := acceptReference_ok_iff.mp accepted
    exact fun _ => ⟨identity, container, rfl, known, free⟩
  | stop asked => exact settled.keep (by simp [asked, Phase.rank]) rfl rfl
  | name _ asked => exact settled.keep (by simp [asked, Phase.rank]) rfl rfl
  | type _ _ asked => exact settled.keep (by simp [asked, Phase.rank]) rfl rfl
  | noType _ _ asked => exact settled.keep (by simp [asked, Phase.rank]) rfl rfl
  | choice _ asked => exact settled.keep (by simp [asked, Phase.rank]) rfl rfl
  | _ => exact settled

theorem settled_answerAll (defaults : Defaults) (lines : List String) :
    ((start defaults).answerAll resolve taken lines).Settled resolve taken :=
  answerAll_induction Step.settled (settled_start defaults) lines

/-- When every question is answered, the answers have a plan unless an assembler was asked for where
its file exists. The class itself can always be planned. -/
theorem finished_dialog_plans (config : Config) (arguments : Command.GenerateArguments)
    (defaults : Defaults) (lines : List String)
    (finished : ((start defaults).answerAll resolve taken lines).phase = .done) :
    ∃ outcome container,
      ((start defaults).answerAll resolve taken lines).outcome? = some outcome ∧
      resolve outcome.identity.container = .ok container ∧
      taken (ArtifactKind.main.target container outcome.identity outcome.root) = false ∧
      let request := Command.requestFromOutcome config arguments outcome
      let assembler := ArtifactKind.assembler.target container outcome.identity outcome.root
      prepare resolve taken request =
        if outcome.withAssembler && taken assembler then .error (.targetExists assembler)
        else .ok (Plan.ofRequest container request) := by
  have settled : ((start defaults).answerAll resolve taken lines).Settled resolve taken :=
    settled_answerAll defaults lines
  generalize (start defaults).answerAll resolve taken lines = wizard at finished settled ⊢
  obtain ⟨identity, container, held⟩ := settled (by simp [finished, Phase.rank])
  refine ⟨⟨wizard.root, identity, wizard.properties, wizard.withAssembler⟩, container, ?_,
    held.known, held.free, ?_⟩
  · simp [outcome?, finished, held.chosen]
  · exact prepare_of_main_free (Command.requestFromOutcome config arguments _) held.known held.free

private theorem post_accepted {taken : Path → Bool}
    (free : taken (ArtifactKind.main.target (.named "App" ⟨"/srv/app"⟩ "App") ⟨"App", "PostDTO"⟩
      "Model") = false) :
    Accepts (Registry.ofList [.named "App" ⟨"/srv/app"⟩ "App"]).resolve taken
      (start ⟨"Entity", none, .empty, true⟩) ["Model", "App:PostDTO", "", "yes"]
      ⟨.done, "Model", none, some ⟨"App", "PostDTO"⟩, .empty, true⟩ := by
  have named : acceptDtoName "App:PostDTO" = .ok "App:PostDTO" := by rfl
  have denoted : ClassIdentity.parse "App:PostDTO" = .ok ⟨"App", "PostDTO"⟩ := by decide +kernel
  have noProperty : ∀ property ∈ PropertyList.empty.entries, Solid isBlank property.type := by
    intro property member
    cases member
  exact accepts_answersFor rfl (by decide) rfl PropertyList.wellNamed_empty noProperty named
    denoted rfl free true

/-- In an empty memory the answers for a class with its assembler have a plan. -/
theorem finished_dialog_plans_post :
    let resolve := (Registry.ofList [.named "App" ⟨"/srv/app"⟩ "App"]).resolve
    let wizard := (start ⟨"Entity", none, .empty, true⟩).answerAll resolve Memory.empty.taken
      ["Model", "App:PostDTO", "", "yes"]
    wizard.phase = .done ∧ ∃ plan,
      prepare resolve Memory.empty.taken ⟨⟨"App", "PostDTO"⟩, .empty, ⟨true, "Model", "mixed"⟩⟩ =
        .ok plan := by
  intro resolve wizard
  have free : Memory.empty.taken (ArtifactKind.main.target (.named "App" ⟨"/srv/app"⟩ "App")
      ⟨"App", "PostDTO"⟩ "Model") = false := by rfl
  have last : wizard = _ := (post_accepted free).answerAll_eq
  have finished : wizard.phase = .done := by rw [last]
  obtain ⟨outcome, container, ended, _, _, planned⟩ :=
    finished_dialog_plans .initial ⟨none, none, none, false, none, false, false⟩ _ _ finished
  change wizard.outcome? = some outcome at ended
  rw [last] at ended
  obtain rfl := Option.some.inj ended
  exact ⟨finished, _, planned⟩

/-- An assembler whose file exists passes every question, although it is asked for by default and
known to exist when the class is accepted. Planning then refuses the finished answers. -/
theorem assembler_conflict_after_dialog :
    let container := Container.named "App" ⟨"/srv/app"⟩ "App"
    let resolve := (Registry.ofList [container]).resolve
    let assembler := ArtifactKind.assembler.target container ⟨"App", "PostDTO"⟩ "Model"
    let taken := (Memory.empty.addFile assembler).taken
    let wizard := (start ⟨"Entity", none, .empty, true⟩).answerAll resolve taken
      ["Model", "App:PostDTO", "", "yes"]
    wizard.outcome? = some ⟨"Model", ⟨"App", "PostDTO"⟩, .empty, true⟩ ∧
      prepare resolve taken ⟨⟨"App", "PostDTO"⟩, .empty, ⟨true, "Model", "mixed"⟩⟩ =
        .error (.targetExists assembler) := by
  intro container resolve assembler taken wizard
  have taken_eq (path : Path) : taken path = assembler.same path := by
    simp [taken, Memory.taken, Memory.addFile, Memory.empty, Memory.content?]
  have free : taken (ArtifactKind.main.target container ⟨"App", "PostDTO"⟩ "Model") = false := by
    rw [taken_eq]
    apply Bool.eq_false_iff.mpr
    intro together
    cases (ArtifactKind.same_target_iff _ _ _ _ _).mp together
  have used : taken assembler = true := by
    rw [taken_eq, Path.same_refl]
  have last : wizard = _ := (post_accepted free).answerAll_eq
  constructor
  · rw [last]
    rfl
  · have known : resolve "App" = .ok container := by rfl
    have planned := prepare_of_main_free
      ⟨⟨"App", "PostDTO"⟩, .empty, ⟨true, "Model", "mixed"⟩⟩ known free
    exact planned.trans (if_pos (by simpa using used))

end Wizard

end DtoScaffold
