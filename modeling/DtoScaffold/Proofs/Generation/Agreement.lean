import DtoScaffold.Proofs.Generation.Planning
import DtoScaffold.Proofs.Php.Header
import DtoScaffold.Storage.Memory

/-!
# Agreement of kind, path and text

The paths of a plan and its texts are made apart and put together by position. Main statement: they
agree. Both come in the order in which the kinds are asked for, and the path of an artifact, its
namespace and its class are made of one list of directories and one class name.
-/
namespace DtoScaffold

open Text

/-- The path and the text of an artifact are made of the same directories and the same class name.
Its class is in a namespace unless neither the container nor the directories give one. -/
structure PlannedArtifact.Agrees (container : Container) (directories : List String)
    (className : String) (artifact : PlannedArtifact) : Prop where
  pushed : artifact.path =
    (container.basePath.pushAll directories).push ⟨className ++ ".php"⟩
  appended : artifact.path.text =
    container.basePath.lead ++ "/".intercalate (directories ++ [className ++ ".php"])
  content : ∃ rest, artifact.content =
    Php.declaration ("\\".intercalate (container.namespaceSegments ++ directories)) ++
      Php.classHead className ++ "\x7b\n" ++ rest
  declared : "namespace ".toList <+: artifact.content.toList ↔
    "\\".intercalate (container.namespaceSegments ++ directories) ≠ ""

theorem ArtifactKind.fileName_eq (kind : ArtifactKind) (dtoName : String) :
    kind.fileName dtoName = kind.className dtoName ++ ".php" := by
  rw [fileName, fileExtension, String.append_assoc]
  rfl

namespace PlannedArtifact

variable (container : Container) (request : Request) (kind : ArtifactKind)

private theorem path_ofKind :
    (ofKind container request kind).path = container.basePath.pushAll
      (directoriesBelow request.identity request.options.rootDirectory ++
        [kind.className request.identity.className ++ ".php"]) := by
  rw [← ArtifactKind.fileName_eq, ← placeOf_eq]
  rfl

/-- Every text is a class in the namespace of its directories. -/
theorem exists_content_ofKind :
    ∃ body, (ofKind container request kind).content =
      Php.print (Php.classItems ("\\".intercalate (container.namespaceSegments ++
        directoriesBelow request.identity request.options.rootDirectory))
        (kind.className request.identity.className) body) := by
  rw [← namespaceOf_eq]
  cases kind <;> exact ⟨_, rfl⟩

private theorem areNames_ofKind :
    ∀ name ∈ directoriesBelow request.identity request.options.rootDirectory ++
      [kind.className request.identity.className ++ ".php"], IsName name := by
  intro name member
  rcases List.mem_append.mp member with directory | file
  · exact isName_of_mem_directoriesBelow directory
  · rw [List.mem_singleton.mp file, ← ArtifactKind.fileName_eq]
    exact kind.isName_fileName request.identity

theorem agrees_ofKind :
    (ofKind container request kind).Agrees container
      (directoriesBelow request.identity request.options.rootDirectory)
      (kind.className request.identity.className) := by
  have path := path_ofKind container request kind
  obtain ⟨body, printed⟩ := exists_content_ofKind container request kind
  obtain ⟨_, text⟩ := Php.print_classItems ("\\".intercalate (container.namespaceSegments ++
    directoriesBelow request.identity request.options.rootDirectory))
    (kind.className request.identity.className) body
  refine ⟨?_, ?_, ⟨_, printed.trans text⟩, ?_⟩
  · rw [path, Path.pushAll, List.foldl_append]
    rfl
  · -- No name that is pushed is absolute, so none replaces what stands before it.
    rw [path, Path.text_pushAll _ (by simp) (areNames_ofKind request kind)]
  · rw [printed, text, String.append_assoc]
    exact Php.namespace_leads_iff _ _ _

end PlannedArtifact

/-- A plan has one artifact of each kind that is asked for, in this order, and every path stands
with the text that is made for it. -/
theorem plan_agrees {resolve : Resolver} {taken : Path → Bool} {request : Request} {plan : Plan}
    (planned : prepare resolve taken request = .ok plan) :
    let texts := render request.identity plan.container request.properties request.options
    resolve request.identity.container = .ok plan.container ∧
      plan.artifacts.map PlannedArtifact.kind = ArtifactKind.requested request.options ∧
      (∃ paths,
        targets resolve request.identity request.options = .ok (plan.container, paths) ∧
        texts.map Artifact.kind = paths.map Prod.fst ∧
        plan.artifacts.map (fun artifact => (artifact.kind, artifact.path)) = paths ∧
        plan.artifacts.map (fun artifact => (artifact.kind, artifact.content)) =
          texts.map fun text => (text.kind, text.content)) ∧
      ∀ artifact ∈ plan.artifacts, artifact.Agrees plan.container
        (segments request.options.rootDirectory ++ request.identity.directories)
        (artifact.kind.className request.identity.className) := by
  intro texts
  obtain ⟨container, known, rfl, _⟩ := (prepare_ok_iff resolve taken request plan).mp planned
  have located : targets resolve request.identity request.options = .ok (container, _) :=
    (targets_eq resolve request).trans (by rw [known]; rfl)
  -- Paths and texts are both made kind by kind, so each pair has one kind and none is left over.
  refine ⟨known, ?_, ⟨_, located, ?_, rfl, ?_⟩, ?_⟩
  · simp [Plan.ofRequest, PlannedArtifact.ofKind, Function.comp_def]
  · simp [texts, render, Plan.ofRequest, PlannedArtifact.ofKind, Function.comp_def]
  · simp [texts, render, Plan.ofRequest, PlannedArtifact.ofKind, Function.comp_def]
  · intro artifact member
    obtain ⟨kind, _, rfl⟩ := List.mem_map.mp member
    exact PlannedArtifact.agrees_ofKind container request kind

/-- A class below a directory, with its assembler, where nothing is yet. -/
theorem plan_agrees_post :
    let container := Container.named "App" ⟨"/srv/app"⟩ "App"
    let request : Request := ⟨⟨"App", "Blog/PostDTO"⟩, .empty, ⟨true, "Model", "mixed"⟩⟩
    ∃ plan, prepare (Registry.ofList [container]).resolve Memory.empty.taken request = .ok plan ∧
      plan.container = container ∧
      plan.artifacts.map PlannedArtifact.kind = [.main, .assembler] ∧
      ∀ artifact ∈ plan.artifacts, artifact.Agrees container ["Model", "Blog"]
        (artifact.kind.className "PostDTO") := by
  intro container request
  have planned : prepare (Registry.ofList [container]).resolve Memory.empty.taken request =
      .ok (Plan.ofRequest container request) :=
    (prepare_ok_iff _ _ _ _).mpr ⟨container, rfl, rfl, fun _ _ => rfl⟩
  have directories : segments "Model" ++ request.identity.directories = ["Model", "Blog"] := by
    decide +kernel
  have className : request.identity.className = "PostDTO" := by decide +kernel
  obtain ⟨_, kinds, _, agree⟩ := plan_agrees planned
  refine ⟨_, planned, rfl, kinds, fun artifact member => ?_⟩
  have agrees := agree artifact member
  rwa [directories, className] at agrees

end DtoScaffold
