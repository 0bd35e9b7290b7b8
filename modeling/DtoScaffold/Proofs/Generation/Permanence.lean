import DtoScaffold.Proofs.Generation.Writing
import DtoScaffold.Proofs.Storage.History
import DtoScaffold.Proofs.Wizard.Transcript

/-!
# A generated class stays generated

Generation and the wizard look for the file of a class on their own. Both compute its place from the
container, the class and the root directory alone, and no operation ever frees a place. Main
statement: once a class was generated, both refuse it for good, whatever else is asked for with it
and whatever happens in between.
-/
namespace DtoScaffold

open Text MemoryOperation

/-- A request is refused on its main artifact whenever that is taken, whatever its options. -/
theorem prepare_of_main_taken {resolve : Resolver} {taken : Path → Bool} {request : Request}
    {container : Container} (known : resolve request.identity.container = .ok container)
    (used : taken (ArtifactKind.main.target container request.identity
      request.options.rootDirectory) = true) :
    prepare resolve taken request = .error (.targetExists
      (ArtifactKind.main.target container request.identity request.options.rootDirectory)) := by
  obtain ⟨others, artifacts⟩ := Plan.artifacts_ofRequest container request
  have first : taken (PlannedArtifact.ofKind container request .main).path = true := used
  rw [prepare_eq, known]
  simp only [artifacts, List.find?_cons, first]
  rfl

/-- A wizard asking for the class refuses one whose file is taken. -/
theorem Wizard.advance_of_main_taken {resolve : Resolver} {taken : Path → Bool} {wizard : Wizard}
    {line reference : String} {identity : ClassIdentity} {container : Container}
    (asked : wizard.phase = .reference)
    (named : acceptDtoName (if (trim line).isEmpty then wizard.defaultReference.getD (trim line)
      else trim line) = .ok reference)
    (denoted : ClassIdentity.parse reference = .ok identity)
    (known : resolve identity.container = .ok container)
    (used : taken (ArtifactKind.main.target container identity wizard.root) = true) :
    wizard.advance resolve taken line = (.error (.alreadyExists identity.shortcut), wizard) := by
  have refused : wizard.acceptReference resolve taken (trim line) =
      .error (.alreadyExists identity.shortcut) := by
    simp only [acceptReference, named, denoted, known, used, Except.mapError, bind, Except.bind,
      if_true]
    rfl
  simp only [advance, asked, refused]

/-- A generation that succeeds leaves the file of the class taken. -/
theorem Memory.main_taken_of_generated {resolve : Resolver} {memory : Memory} {request : Request}
    {plan : Plan} (generated : (generate resolve memory request).1 = .ok plan) :
    ∃ container, resolve request.identity.container = .ok container ∧
      plan = Plan.ofRequest container request ∧
      (generate resolve memory request).2.content? (ArtifactKind.main.target container
        request.identity request.options.rootDirectory) ≠ none := by
  cases planned : prepare resolve memory.taken request with
  | error error =>
    rw [generate, Memory.storage_taken, planned] at generated
    cases generated
  | ok other =>
    by_cases working : memory.failing = none
    · obtain ⟨after, done, stored⟩ := Memory.generate_of_working planned working
      obtain ⟨container, known, rfl, _⟩ := (prepare_ok_iff _ _ _ _).mp planned
      rw [done] at generated ⊢
      cases generated
      obtain ⟨others, artifacts⟩ := Plan.artifacts_ofRequest container request
      have main := stored.new (PlannedArtifact.ofKind container request .main)
        (artifacts ▸ List.mem_cons_self)
      refine ⟨container, known, rfl, ?_⟩
      intro absent
      cases absent.symm.trans main.2
    · obtain ⟨error, main, _, _, refused⟩ := Memory.generate_of_failing planned working
      rw [refused] at generated
      cases generated

/-- What has content has content after any operations. -/
theorem Memory.taken_performAll {memory : Memory} {path : Path} (held : memory.content? path ≠ none)
    (operations : List MemoryOperation) : (performAll operations memory).taken path = true := by
  obtain ⟨content, held⟩ := Option.ne_none_iff_exists'.mp held
  have kept := (keeps_performAll operations memory).content path content held
  rw [Memory.taken_eq, kept, Option.isSome_some, Bool.or_true]

/-- After a class was generated, whatever was done since, every request for it below the same root
directory is refused with the path of its main artifact and changes nothing. A wizard that holds
this root directory and asks for a class rejects every answer that denotes it. -/
theorem generated_class_stays_taken (resolve : Resolver) (initial : Memory)
    (earlier between : List MemoryOperation) {first later : Request} {plan : Plan}
    (generated : (generate resolve (performAll earlier initial) first).1 = .ok plan)
    (sameClass : later.identity = first.identity)
    (sameRoot : later.options.rootDirectory = first.options.rootDirectory) :
    let memory := performAll (earlier ++ .generate resolve first :: between) initial
    ∃ main, plan.artifacts.head? = some main ∧ main.kind = .main ∧
      prepare resolve memory.taken later = .error (.targetExists main.path) ∧
      generate resolve memory later = (.error (.targetExists main.path), memory) ∧
      ∀ (wizard : Wizard) (line reference : String), wizard.phase = .reference →
        wizard.root = first.options.rootDirectory →
        acceptDtoName (if (trim line).isEmpty then wizard.defaultReference.getD (trim line)
          else trim line) = .ok reference →
        ClassIdentity.parse reference = .ok first.identity →
        wizard.advance resolve memory.taken line =
          (.error (.alreadyExists first.identity.shortcut), wizard) := by
  intro memory
  obtain ⟨container, known, rfl, held⟩ := Memory.main_taken_of_generated generated
  have reached : memory = performAll between
      (generate resolve (performAll earlier initial) first).2 := performAll_append _ _ _
  have used : memory.taken (ArtifactKind.main.target container first.identity
      first.options.rootDirectory) = true := reached ▸ Memory.taken_performAll held between
  have refused : prepare resolve memory.taken later = .error (.targetExists
      (ArtifactKind.main.target container first.identity first.options.rootDirectory)) := by
    rw [← sameClass, ← sameRoot] at used
    rw [← sameClass] at known
    rw [prepare_of_main_taken known used, sameClass, sameRoot]
  obtain ⟨others, artifacts⟩ := Plan.artifacts_ofRequest container first
  refine ⟨PlannedArtifact.ofKind container first .main, by rw [artifacts]; rfl, rfl, refused,
    ?_, ?_⟩
  · rw [generate, Memory.storage_taken, refused]
    rfl
  · intro wizard line reference asked root named denoted
    exact wizard.advance_of_main_taken asked named denoted known (root ▸ used)

/-- A class is refused with its assembler and another property, even after writing was switched off,
and so is its reference with a backslash. -/
theorem generated_class_stays_taken_post :
    let resolve := (Registry.ofList [.named "App" ⟨"/srv/app"⟩ "App"]).resolve
    let identity : ClassIdentity := ⟨"App", "Blog/PostDTO"⟩
    let first : Request := ⟨identity, .empty, ⟨false, "Model", "mixed"⟩⟩
    let later : Request := ⟨identity, ⟨[⟨"title", "string"⟩]⟩, ⟨true, "Model", "Post"⟩⟩
    let memory := performAll [.generate resolve first, .setFailing (some .storageFull)] Memory.empty
    let wizard : Wizard := ⟨.reference, "Model", none, none, .empty, true⟩
    (∃ plan, (generate resolve Memory.empty first).1 = .ok plan) ∧
      (∃ main, generate resolve memory later = (.error (.targetExists main), memory)) ∧
      wizard.advance resolve memory.taken " App:Blog\\PostDTO" =
        (.error (.alreadyExists "App:Blog/PostDTO"), wizard) := by
  intro resolve identity first later memory wizard
  have planned : prepare resolve Memory.empty.taken first =
      .ok (Plan.ofRequest (.named "App" ⟨"/srv/app"⟩ "App") first) :=
    (prepare_ok_iff _ _ _ _).mpr ⟨_, rfl, rfl, fun _ _ => rfl⟩
  obtain ⟨after, generated, _⟩ := Memory.generate_of_working planned rfl
  have done := congrArg Prod.fst generated
  obtain ⟨main, _, _, _, refused, rejected⟩ := @generated_class_stays_taken resolve .empty []
    [.setFailing (some .storageFull)] first later _ done rfl rfl
  have named : acceptDtoName (trim " App:Blog\\PostDTO") = .ok "App:Blog\\PostDTO" := by
    decide +kernel
  have denoted : ClassIdentity.parse "App:Blog\\PostDTO" = .ok identity := by decide +kernel
  exact ⟨⟨_, done⟩, ⟨main.path, refused⟩, rejected wizard _ _ rfl rfl named denoted⟩

end DtoScaffold
