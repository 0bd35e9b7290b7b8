import DtoScaffold.Command.Generate
import DtoScaffold.Proofs.Checks
import DtoScaffold.Proofs.Property.Tokens
import DtoScaffold.Proofs.Text.Blank
import DtoScaffold.Proofs.Wizard.Steps
import DtoScaffold.Storage.Memory

/-!
# Dialogs without a rejection

What the arguments of a command describe can also be told to the wizard: the root directory, the
reference, the name and the type of each property, an empty line and a choice. Names and types hold
no blank and are not empty, so trimming leaves each line as it is and none is taken for an empty
answer. The wizard then ends with what the command reads from its arguments.
-/
namespace DtoScaffold

open Text

theorem acceptDtoName_ok_iff {answer name : String} :
    acceptDtoName answer = .ok name ↔
      name = trim answer ∧ ':' ∈ (trim answer).toList ∧
        dtoSuffix.toList <:+ (trim answer).toList := by
  unfold acceptDtoName
  dsimp only
  split
  next colonless =>
    have absent : ':' ∉ (trim answer).toList := by simpa using colonless
    simp [absent]
  next colon =>
    have present : ':' ∈ (trim answer).toList := by simpa using colon
    split
    next unsuffixed =>
      have other : ¬ dtoSuffix.toList <:+ (trim answer).toList := by
        intro suffix
        rw [List.isSuffixOf_iff_suffix.mpr suffix] at unsuffixed
        cases unsuffixed
      simp [other]
    next suffixed =>
      have same : dtoSuffix.toList <:+ (trim answer).toList := by simpa using suffixed
      simp [present, same, eq_comm]

/-- A name that the dialog accepts is accepted again without the blanks around it. -/
theorem acceptDtoName_trim (answer : String) :
    acceptDtoName (trim answer) = acceptDtoName answer := by
  rw [acceptDtoName, acceptDtoName, trim_trim]

theorem ClassIdentity.parse_trim (raw : String) :
    ClassIdentity.parse (trim raw) = ClassIdentity.parse raw := by
  rw [ClassIdentity.parse, ClassIdentity.parse, trim_trim]

namespace Wizard

/-- The line that chooses whether to generate an assembler. -/
def choiceLine (withAssembler : Bool) : String :=
  if withAssembler then "yes" else "no"

/-- The lines that tell the wizard a class, its properties and the choice of an assembler. -/
def answersFor (root reference : String) (list : PropertyList) (withAssembler : Bool) :
    List String :=
  [root, reference] ++ list.entries.flatMap (fun property => [property.name, property.type]) ++
    ["", choiceLine withAssembler]

/-- A wizard accepts lines one after the other, each before it is done, and ends as `last`. -/
inductive Accepts (resolve : Resolver) (taken : Path → Bool) : Wizard → List String → Wizard → Prop
  | stop (wizard : Wizard) : Accepts resolve taken wizard [] wizard
  | line {wizard next last : Wizard} {line : String} {rest : List String}
    (asking : wizard.phase ≠ .done) (accepted : wizard.advance resolve taken line = (.ok (), next))
    (later : Accepts resolve taken next rest last) :
    Accepts resolve taken wizard (line :: rest) last

variable {resolve : Resolver} {taken : Path → Bool} {wizard : Wizard}

namespace Accepts

theorem append {middle last : Wizard} {lines more : List String}
    (first : Accepts resolve taken wizard lines middle)
    (second : Accepts resolve taken middle more last) :
    Accepts resolve taken wizard (lines ++ more) last := by
  induction first with
  | stop => exact second
  | line asking accepted _ ih => exact .line asking accepted (ih second)

theorem answerAll_eq {last : Wizard} {lines : List String}
    (accepts : Accepts resolve taken wizard lines last) :
    wizard.answerAll resolve taken lines = last := by
  induction accepts with
  | stop => rfl
  | line _ accepted _ ih =>
    rw [answerAll, List.foldl_cons, accepted]
    exact ih

/-- Wherever the lines are divided, the wizard still asks there and accepts the next line. -/
theorem next_accepted {last : Wizard} {earlier later : List String} {line : String}
    (accepts : Accepts resolve taken wizard (earlier ++ line :: later) last) :
    (wizard.answerAll resolve taken earlier).phase ≠ .done ∧
      ((wizard.answerAll resolve taken earlier).advance resolve taken line).1 = .ok () := by
  induction earlier generalizing wizard with
  | nil =>
    cases accepts with
    | line asking accepted _ => exact ⟨asking, congrArg Prod.fst accepted⟩
  | cons first rest ih =>
    cases accepts with
    | line _ accepted remaining =>
      have reached := ih remaining
      rw [answerAll, List.foldl_cons, accepted]
      exact reached

end Accepts

theorem accepts_line {next : Wizard} {line : String} (asking : wizard.phase ≠ .done)
    (accepted : wizard.advance resolve taken line = (.ok (), next)) :
    Accepts resolve taken wizard [line] next :=
  .line asking accepted (.stop next)

theorem accepts_root {root : String} (asked : wizard.phase = .root) (filled : root ≠ "")
    (bare : trim root = root) :
    Accepts resolve taken wizard [root] { wizard with root, phase := .reference } := by
  apply accepts_line (by simp [asked])
  simp [advance, asked, bare, filled]

/-- A class is accepted when every check on its reference passes. -/
theorem acceptReference_ok_iff {answer : String} {identity : ClassIdentity} :
    wizard.acceptReference resolve taken answer = .ok identity ↔
      ∃ reference container,
        acceptDtoName (if answer.isEmpty then wizard.defaultReference.getD answer else answer) =
          .ok reference ∧
        ClassIdentity.parse reference = .ok identity ∧
        resolve identity.container = .ok container ∧
        taken (ArtifactKind.main.target container identity wizard.root) = false := by
  simp only [acceptReference, bind_ok_iff, mapError_ok_iff]
  constructor
  · rintro ⟨reference, named, other, denoted, container, known, last⟩
    obtain ⟨free, rfl⟩ := guard_ok_iff.mp last
    exact ⟨reference, container, named, denoted, known, free⟩
  · rintro ⟨reference, container, named, denoted, known, free⟩
    exact ⟨reference, named, identity, denoted, container, known, guard_ok_iff.mpr ⟨free, rfl⟩⟩

theorem accepts_reference {reference name : String} {identity : ClassIdentity}
    {container : Container} (asked : wizard.phase = .reference)
    (named : acceptDtoName reference = .ok name)
    (denoted : ClassIdentity.parse reference = .ok identity)
    (known : resolve identity.container = .ok container)
    (free : taken (ArtifactKind.main.target container identity wizard.root) = false) :
    Accepts resolve taken wizard [reference]
      { wizard with identity := some identity, phase := .properties none } := by
  apply accepts_line (by simp [asked])
  obtain ⟨rfl, colon, _⟩ := acceptDtoName_ok_iff.mp named
  have filled : (trim reference).isEmpty = false := by
    apply Bool.eq_false_iff.mpr
    intro empty
    rw [String.isEmpty_iff.mp empty] at colon
    cases colon
  have accepted : wizard.acceptReference resolve taken (trim reference) = .ok identity := by
    apply acceptReference_ok_iff.mpr
    refine ⟨trim reference, container, ?_, ?_, known, free⟩
    · simp [filled, acceptDtoName_trim, named]
    · rw [ClassIdentity.parse_trim, denoted]
  simp [advance, asked, accepted]

theorem accepts_property {property : Property} (asked : wizard.phase = .properties none)
    (admitted : wizard.properties.admits property.name = true)
    (solid : Solid isBlank property.type) :
    Accepts resolve taken wizard [property.name, property.type]
      { wizard with properties := ⟨wizard.properties.entries ++ [property]⟩ } := by
  obtain ⟨valid, _⟩ := PropertyList.admits_iff.mp admitted
  have named := solid_of_isPropertyName valid
  have nameFilled : property.name.isEmpty = false := by simpa using named.nonempty
  have typeFilled : property.type.isEmpty = false := by simpa using solid.nonempty
  have name := trim_of_gapless named.gapless
  have type := trim_of_gapless solid.gapless
  have accepted : acceptPropertyName wizard.properties property.name = .ok property.name :=
    acceptPropertyName_ok_iff.mpr ⟨name.symm, admitted⟩
  have first : wizard.advance resolve taken property.name =
      (.ok (), { wizard with phase := .properties (some property.name) }) := by
    simp [advance, asked, name, nameFilled, accepted]
  apply Accepts.line (by simp [asked]) first
  apply accepts_line (by simp)
  simp [advance, asked, type, typeFilled, PropertyList.add_of_admits admitted]

/-- Properties are told one after the other while the names stay different. -/
theorem accepts_properties {properties : List Property} (asked : wizard.phase = .properties none)
    (wellNamed : PropertyList.WellNamed ⟨wizard.properties.entries ++ properties⟩)
    (solid : ∀ property ∈ properties, Solid isBlank property.type) :
    Accepts resolve taken wizard
      (properties.flatMap fun property => [property.name, property.type])
      { wizard with properties := ⟨wizard.properties.entries ++ properties⟩ } := by
  induction properties generalizing wizard with
  | nil => simpa using Accepts.stop wizard
  | cons property rest ih =>
    have admitted : wizard.properties.admits property.name = true := by
      have distinct := wellNamed.distinct
      simp only [PropertyList.names, List.map_append, List.map_cons] at distinct
      have new := (List.nodup_append.mp distinct).2.2
      apply PropertyList.admits_iff.mpr
      refine ⟨wellNamed.valid _ (by simp [PropertyList.names]), ?_⟩
      apply Bool.eq_false_iff.mpr
      intro held
      exact new _ (PropertyList.contains_iff.mp held) _ List.mem_cons_self rfl
    have first : Accepts resolve taken wizard [property.name, property.type]
        { wizard with properties := ⟨wizard.properties.entries ++ [property]⟩ } :=
      accepts_property asked admitted (solid property List.mem_cons_self)
    have grown : wizard.properties.entries ++ property :: rest =
        wizard.properties.entries ++ [property] ++ rest := by simp
    rw [grown] at wellNamed ⊢
    exact first.append (ih asked wellNamed fun other member =>
      solid other (List.mem_cons_of_mem _ member))

theorem accepts_stop (asked : wizard.phase = .properties none) :
    Accepts resolve taken wizard [""] { wizard with phase := .assembler } := by
  apply accepts_line (by simp [asked])
  have empty : (trim "").isEmpty = true := by rfl
  simp [advance, asked, empty]

theorem accepts_choice (asked : wizard.phase = .assembler) (withAssembler : Bool) :
    Accepts resolve taken wizard [choiceLine withAssembler]
      { wizard with withAssembler, phase := .done } := by
  apply accepts_line (by simp [asked])
  have accepted : acceptConfirmation (trim (choiceLine withAssembler)) wizard.withAssembler =
      .ok withAssembler := by
    cases withAssembler <;> rfl
  simp [advance, asked, accepted]

/-- A wizard without properties accepts the answers that describe a class that can be placed. -/
theorem accepts_answersFor {defaults : Defaults} {root reference name : String}
    {list : PropertyList} {identity : ClassIdentity} {container : Container}
    (unfilled : defaults.properties = .empty) (filled : root ≠ "") (bare : trim root = root)
    (wellNamed : list.WellNamed) (solid : ∀ property ∈ list.entries, Solid isBlank property.type)
    (named : acceptDtoName reference = .ok name)
    (denoted : ClassIdentity.parse reference = .ok identity)
    (known : resolve identity.container = .ok container)
    (free : taken (ArtifactKind.main.target container identity root) = false)
    (withAssembler : Bool) :
    Accepts resolve taken (start defaults) (answersFor root reference list withAssembler)
      ⟨.done, root, defaults.reference, some identity, list, withAssembler⟩ := by
  have start : Accepts resolve taken (start defaults) [root]
      { start defaults with root, phase := .reference } := accepts_root rfl filled bare
  have referred := start.append (accepts_reference rfl named denoted known free)
  have told := referred.append (accepts_properties rfl
    (by simpa [Wizard.start, unfilled, PropertyList.empty] using wellNamed) solid)
  have chosen := told.append ((accepts_stop rfl).append (accepts_choice rfl withAssembler))
  simpa [answersFor, Wizard.start, unfilled, PropertyList.empty] using chosen

/-- What the arguments of a command describe can be told to the wizard instead: it accepts each of
the lines, is done after the last one and not before, and the command makes the same request from
its outcome as from the arguments. -/
theorem dialog_expresses_arguments (config : Config) (arguments : Command.GenerateArguments)
    (colored : Bool) (defaults : Defaults) {root reference raw name : String}
    {list : PropertyList} {identity : ClassIdentity} {container : Container}
    (unfilled : defaults.properties = .empty) (filled : root ≠ "") (bare : trim root = root)
    (read : PropertyList.parse raw = .ok list) (named : acceptDtoName reference = .ok name)
    (denoted : ClassIdentity.parse reference = .ok identity)
    (known : resolve identity.container = .ok container)
    (free : taken (ArtifactKind.main.target container identity root) = false) :
    let given : Command.GenerateArguments := { arguments with
      dto := some reference, properties := some raw, rootDirectory := some root }
    let lines := answersFor root reference list given.withAssembler
    let reached := fun lines => (start defaults).answerAll resolve taken lines
    let outcome : Outcome := ⟨root, identity, list, given.withAssembler⟩
    (∀ earlier line later, lines = earlier ++ line :: later →
      (reached earlier).phase ≠ .done ∧ ((reached earlier).advance resolve taken line).1 = .ok ()) ∧
    (reached lines).phase = .done ∧
    (reached lines).outcome? = some outcome ∧
    Command.chooseRequest config resolve taken colored given none =
      (.ok (Command.requestFromOutcome config given outcome), "") := by
  intro given lines reached outcome
  have accepts : Accepts resolve taken (start defaults) lines
      ⟨.done, root, defaults.reference, some identity, list, given.withAssembler⟩ :=
    accepts_answersFor unfilled filled bare (PropertyList.wellNamed_of_parse read)
      (fun _ member => PropertyList.solid_type read member) named denoted known free
      given.withAssembler
  have last : reached lines = _ := accepts.answerAll_eq
  refine ⟨?_, ?_, ?_, ?_⟩
  · intro earlier line later divided
    rw [divided] at accepts
    exact accepts.next_accepted
  · rw [last]
  · rw [last]
    rfl
  · simp [Command.chooseRequest, Command.givenProperties, Command.requestFromArguments,
      Command.requestFromOutcome, Command.rootFor, Except.mapError, given, outcome, read, denoted]

/-- A repeated name and a reference with slashes of both kinds, told to a wizard whose defaults say
otherwise. -/
theorem dialog_expresses_post :
    let container := Container.named "App" ⟨"/srv/app"⟩ "Acme\\App"
    let resolve := (Registry.ofList [container]).resolve
    let identity : ClassIdentity := ⟨"App", "Blog/PostDTO"⟩
    let list : PropertyList := ⟨[⟨"title", "text"⟩, ⟨"tag", "\\Tag"⟩]⟩
    let wizard := start ⟨"Entity", some "App:TagDTO", .empty, true⟩
    trim "Model" = "Model" ∧
    PropertyList.parse "string:title \\Tag:tag text:title" = .ok list ∧
    acceptDtoName "App:/Blog\\PostDTO" = .ok "App:/Blog\\PostDTO" ∧
    ClassIdentity.parse "App:/Blog\\PostDTO" = .ok identity ∧
    resolve "App" = .ok container ∧
    (wizard.answerAll resolve Memory.empty.taken
      ["Model", "App:/Blog\\PostDTO", "title", "text", "tag", "\\Tag", "", "no"]).outcome? =
        some ⟨"Model", identity, list, false⟩ := by
  intro container resolve identity list wizard
  have filled : "Model" ≠ "" := by decide
  have bare : trim "Model" = "Model" := by rfl
  have read : PropertyList.parse "string:title \\Tag:tag text:title" = .ok list := by decide +kernel
  have named : acceptDtoName "App:/Blog\\PostDTO" = .ok "App:/Blog\\PostDTO" := by rfl
  have denoted : ClassIdentity.parse "App:/Blog\\PostDTO" = .ok identity := by decide +kernel
  have known : resolve identity.container = .ok container := by rfl
  have free : Memory.empty.taken (ArtifactKind.main.target container identity "Model") = false := by
    rfl
  have expressed := dialog_expresses_arguments .initial
    ⟨none, none, none, false, none, true, false⟩ false
    ⟨"Entity", some "App:TagDTO", .empty, true⟩ rfl filled bare read named denoted known free
  exact ⟨bare, read, named, denoted, known, expressed.2.2.1⟩

end Wizard

end DtoScaffold
