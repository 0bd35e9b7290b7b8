import DtoScaffold.Proofs.Reference
import DtoScaffold.Proofs.Wizard.Outcomes

/-!
# What a finished dialog has collected

Each part of an outcome is settled at its own question and is kept by all the answers after that,
whether they are accepted or rejected. Main statement: a wizard has an outcome exactly when it is
done, and then its class was read from a reference and can be placed, its root directory is bare,
and its properties are the default ones followed by those that the lines of input describe.
-/
namespace DtoScaffold

open Text

theorem bare_of_trim_eq {text : String} (filled : text.isEmpty = false) (same : trim text = text) :
    Bare text := by
  have bare : Bare (trim text) := bare_trim (by rw [same, filled])
  rwa [same] at bare

/-- A guessed type is one of those that the conventions suggest, or the last resort. -/
theorem bare_inferType (name : String) : Bare (inferType name) := by
  have suggested : ∀ convention ∈ typeConventions, Bare convention.2 := by
    intro convention member
    simp only [typeConventions, List.mem_cons, List.not_mem_nil, or_false] at member
    rcases member with rfl | rfl | rfl | rfl
    · exact bare_of_trim_eq (by decide) (by decide +kernel)
    · exact bare_of_trim_eq (by decide) (by decide +kernel)
    · exact bare_of_trim_eq (by decide) (by decide +kernel)
    · exact bare_of_trim_eq (by decide) (by decide +kernel)
  unfold inferType
  dsimp only
  split
  next found => exact suggested _ (List.mem_of_find?_eq_some found)
  next => exact bare_of_trim_eq (by decide) (by decide +kernel)

/-- The type that an answer gives to a property; an empty one leaves it to the name. -/
def answeredType (name answer : String) : String :=
  if answer.isEmpty then inferType name else answer

theorem bare_answeredType (name line : String) : Bare (answeredType name (trim line)) := by
  unfold answeredType
  split
  next => exact bare_inferType name
  next filled => exact bare_trim (by simpa using filled)

namespace Wizard

variable {resolve : Resolver} {taken : Path → Bool} {wizard after : Wizard} {answer : String}
  {verdict : Except InputRejection Unit}

/-- The properties that lines of input describe, in the order of the lines. Where a line makes the
wizard ask for the type of the property that it names, it describes a property with the next one. -/
def entered (resolve : Resolver) (taken : Path → Bool) (wizard : Wizard) :
    List String → List Property
  | nameLine :: typeLine :: rest =>
    let name := trim nameLine
    let named := (wizard.advance resolve taken nameLine).2
    if named.phase = .properties (some name) then
      ⟨name, answeredType name (trim typeLine)⟩ ::
        entered resolve taken (named.advance resolve taken typeLine).2 rest
    else entered resolve taken named (typeLine :: rest)
  | _ => []
termination_by lines => lines.length

/-- The wizard does not ask for the type of a property. -/
def Idle (wizard : Wizard) : Prop :=
  ∀ name, wizard.phase ≠ .properties (some name)

theorem idle_start (defaults : Defaults) : (start defaults).Idle := by
  intro name asked
  cases asked

/-- Only an accepted name makes an idle wizard ask for a type, and the list stays as it is. -/
theorem Step.of_idle (step : Step resolve taken wizard answer verdict after) (idle : wizard.Idle) :
    after.properties = wizard.properties ∧ (after.Idle ∨
      after.phase = .properties (some (trim answer)) ∧
        after.properties.admits (trim answer) = true) := by
  cases step with
  | name name _ _ accepted =>
    obtain ⟨rfl, admitted⟩ := acceptPropertyName_ok_iff.mp accepted
    exact ⟨rfl, .inr ⟨rfl, admitted⟩⟩
  | type name _ asked => exact absurd asked (idle name)
  | noType name _ asked => exact absurd asked (idle name)
  | noReference => exact ⟨rfl, .inl idle⟩
  | noName => exact ⟨rfl, .inl idle⟩
  | noChoice => exact ⟨rfl, .inl idle⟩
  | done => exact ⟨rfl, .inl idle⟩
  | _ => exact ⟨rfl, .inl nofun⟩

theorem advance_type {name : String} (asked : wizard.phase = .properties (some name))
    (admitted : wizard.properties.admits name = true) (line : String) :
    (wizard.advance resolve taken line).2 = { wizard with
      properties := ⟨wizard.properties.entries ++ [⟨name, answeredType name (trim line)⟩]⟩
      phase := .properties none } := by
  simp only [advance, asked, PropertyList.add_of_admits admitted, answeredType]

/-- What the lines describe is what they add to the list. -/
theorem entries_answerAll (idle : wizard.Idle) (lines : List String) :
    (wizard.answerAll resolve taken lines).properties.entries =
      wizard.properties.entries ++ wizard.entered resolve taken lines := by
  have first (wizard : Wizard) (line : String) :=
    step_advance resolve taken wizard line
  fun_induction entered resolve taken wizard lines with
  | case1 wizard nameLine typeLine rest name named asked ih =>
    obtain ⟨same, still | ⟨_, admitted⟩⟩ := (first wizard nameLine).of_idle idle
    · exact absurd asked (still name)
    rw [trim_trim] at admitted
    have typed : (named.advance resolve taken typeLine).2 = _ :=
      advance_type asked admitted typeLine
    have reached : wizard.answerAll resolve taken (nameLine :: typeLine :: rest) =
        (named.advance resolve taken typeLine).2.answerAll resolve taken rest := rfl
    rw [reached, ih (by rw [typed]; exact nofun), typed, ← same]
    simp [named]
  | case2 wizard nameLine typeLine rest name named unasked ih =>
    obtain ⟨same, still | ⟨asked, _⟩⟩ := (first wizard nameLine).of_idle idle
    · rw [← same, ← ih still]
      rfl
    · rw [trim_trim] at asked
      exact absurd asked unasked
  | case3 wizard lines short =>
    rcases lines with _ | ⟨line, _ | ⟨second, rest⟩⟩
    · simp [answerAll]
    · rw [List.append_nil, ← ((first wizard line).of_idle idle).1]
      rfl
    · exact absurd rfl (short line second rest)

theorem bare_type_of_mem_entered {lines : List String} {property : Property}
    (member : property ∈ wizard.entered resolve taken lines) : Bare property.type := by
  fun_induction entered resolve taken wizard lines with
  | case1 wizard nameLine typeLine rest name named asked ih =>
    rcases List.mem_cons.mp member with rfl | later
    · dsimp only
      exact bare_answeredType name typeLine
    · exact ih later
  | case2 wizard nameLine typeLine rest name named unasked ih => exact ih member
  | case3 => cases member

/-- The class of a wizard, if it has one, was read from an answer that the dialog accepts. -/
def Referred (wizard : Wizard) : Prop :=
  ∀ identity, wizard.identity = some identity → ∃ answer reference,
    acceptDtoName answer = .ok reference ∧ ClassIdentity.parse reference = .ok identity

theorem referred_start (defaults : Defaults) : (start defaults).Referred := by
  intro identity chosen
  cases chosen

theorem Step.referred (step : Step resolve taken wizard answer verdict after)
    (referred : wizard.Referred) : after.Referred := by
  cases step with
  | reference identity _ accepted =>
    obtain ⟨reference, _, named, denoted, _⟩ := acceptReference_ok_iff.mp accepted
    rintro _ ⟨⟩
    exact ⟨_, reference, named, denoted⟩
  | _ => exact referred

/-- The root directory is the default one or an answer. -/
def Rooted (defaults : Defaults) (wizard : Wizard) : Prop :=
  wizard.root = defaults.root ∨ Bare wizard.root

theorem Step.rooted {defaults : Defaults} {line : String}
    (step : Step resolve taken wizard (trim line) verdict after)
    (rooted : wizard.Rooted defaults) : after.Rooted defaults := by
  cases step with
  | root =>
    unfold Rooted
    dsimp only
    split
    next => exact rooted
    next filled => exact .inr (bare_trim (by simpa using filled))
  | _ => exact rooted

/-- The names of the list are valid and pairwise distinct. -/
def WellNamed (wizard : Wizard) : Prop :=
  wizard.properties.WellNamed

theorem Step.wellNamed (step : Step resolve taken wizard answer verdict after)
    (wellNamed : wizard.WellNamed) : after.WellNamed := by
  cases step with
  | type _ _ _ added => exact PropertyList.WellNamed.add wellNamed added
  | _ => exact wellNamed

end Wizard

/-- What an outcome is for the questions that led to it: `entered` are the properties that were
added to the default ones. -/
structure Outcome.WellFormed (resolve : Resolver) (taken : Path → Bool) (defaults : Defaults)
    (entered : List Property) (outcome : Outcome) : Prop where
  read : ∃ answer reference, acceptDtoName answer = .ok reference ∧
    ClassIdentity.parse reference = .ok outcome.identity
  suffixed : "DTO".toList <:+ outcome.identity.className.toList
  placeable : ∃ container, resolve outcome.identity.container = .ok container ∧
    taken (ArtifactKind.main.target container outcome.identity outcome.root) = false
  root : outcome.root = defaults.root ∨ Bare outcome.root
  grown : outcome.properties.entries = defaults.properties.entries ++ entered
  distinct : outcome.properties.names.Nodup
  valid : ∀ name ∈ outcome.properties.names, isPropertyName name = true
  types : ∀ property ∈ entered, Bare property.type

namespace Wizard

theorem outcome?_eq_some {wizard : Wizard} {outcome : Outcome}
    (ended : wizard.outcome? = some outcome) :
    wizard.phase = .done ∧ wizard.identity = some outcome.identity ∧
      outcome.root = wizard.root ∧ outcome.properties = wizard.properties := by
  unfold outcome? at ended
  split at ended
  next identity done chosen =>
    cases ended
    exact ⟨done, chosen, rfl, rfl⟩
  · cases ended

/-- Whatever lines a wizard was given, it has an outcome exactly when it is done, and this outcome
is well formed. The default properties are a list that parsing and adding lead to. -/
theorem outcome_well_formed (resolve : Resolver) (taken : Path → Bool) {defaults : Defaults}
    (reachable : defaults.properties.Reachable) (lines : List String) :
    let wizard := (start defaults).answerAll resolve taken lines
    ((∃ outcome, wizard.outcome? = some outcome) ↔ wizard.phase = .done) ∧
      ∀ outcome, wizard.outcome? = some outcome → outcome.WellFormed resolve taken defaults
        ((start defaults).entered resolve taken lines) := by
  intro wizard
  have settled : wizard.Settled resolve taken := settled_answerAll defaults lines
  refine ⟨⟨?_, ?_⟩, ?_⟩
  · rintro ⟨outcome, ended⟩
    exact (outcome?_eq_some ended).1
  · intro done
    obtain ⟨identity, _, held⟩ := settled (by simp [done, Phase.rank])
    exact ⟨_, by simp only [outcome?, done, held.chosen]; rfl⟩
  · intro outcome ended
    obtain ⟨done, chosen, root, properties⟩ := outcome?_eq_some ended
    have referred : wizard.Referred :=
      answerAll_induction Step.referred (referred_start defaults) lines
    have rooted : wizard.Rooted defaults := answerAll_induction Step.rooted (.inl rfl) lines
    have named : (start defaults).WellNamed := reachable.wellNamed
    have wellNamed : wizard.WellNamed := answerAll_induction Step.wellNamed named lines
    obtain ⟨answer, reference, named, denoted⟩ := referred _ chosen
    obtain ⟨_, container, chosenToo, known, free⟩ := settled (by simp [done, Phase.rank])
    obtain rfl := Option.some.inj (chosen.symm.trans chosenToo)
    obtain ⟨rfl, _, suffixed⟩ := acceptDtoName_ok_iff.mp named
    refine ⟨⟨answer, _, named, denoted⟩, ?_, ⟨container, known, root ▸ free⟩, root ▸ rooted, ?_,
      properties ▸ wellNamed.distinct, properties ▸ wellNamed.valid,
      fun _ => bare_type_of_mem_entered⟩
    · -- The suffix of the whole reference has neither a colon nor a slash in it.
      apply ClassIdentity.suffix_className denoted
      · rwa [trim_trim]
      · simp
      · simp [isSlash]
    · rw [properties]
      exact entries_answerAll (idle_start defaults) lines

/-- A dialog that adds a property to a default one. It rejects a reference without a container and
the name that the list has already. -/
theorem outcome_well_formed_post :
    let resolve := (Registry.ofList [.named "App" ⟨"/srv/app"⟩ "App"]).resolve
    let defaults : Defaults := ⟨"Entity", none, ⟨[⟨"title", "string"⟩]⟩, false⟩
    let lines := [" Model ", "Post", "App:Blog\\PostDTO", "title", " createdAt", "", "", "y"]
    let outcome : Outcome := ⟨"Model", ⟨"App", "Blog/PostDTO"⟩,
      ⟨[⟨"title", "string"⟩, ⟨"createdAt", "datetime"⟩]⟩, true⟩
    defaults.properties.Reachable ∧
      ((start defaults).answerAll resolve Memory.empty.taken lines).outcome? = some outcome ∧
      outcome.WellFormed resolve Memory.empty.taken defaults [⟨"createdAt", "datetime"⟩] := by
  intro resolve defaults lines outcome
  have read : PropertyList.parse "string:title" = .ok defaults.properties := by decide +kernel
  have reachable : defaults.properties.Reachable := .parsed read
  have ended : ((start defaults).answerAll resolve Memory.empty.taken lines).outcome? =
      some outcome := by decide +kernel
  have entered : (start defaults).entered resolve Memory.empty.taken lines =
      [⟨"createdAt", "datetime"⟩] := by decide +kernel
  have wellFormed :=
    (outcome_well_formed resolve Memory.empty.taken reachable lines).2 outcome ended
  rw [entered] at wellFormed
  exact ⟨reachable, ended, wellFormed⟩

end Wizard

end DtoScaffold
