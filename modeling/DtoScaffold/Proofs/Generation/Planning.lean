import DtoScaffold.Proofs.Placement

/-!
# Plans

A request is planned exactly when its container is known and every target is free. The plan then
has one artifact of each kind that was asked for, and no two of its targets are the same place.
-/
namespace DtoScaffold

namespace ArtifactKind

theorem className_inj (first second : ArtifactKind) (dtoName : String) :
    first.className dtoName = second.className dtoName ↔ first = second := by
  -- The suffix is not empty, so it tells the kinds apart after every name.
  have longer : dtoName ≠ dtoName ++ Php.assemblerSuffix := by
    intro same
    have size := congrArg String.length same
    rw [String.length_append] at size
    have filled : 0 < Php.assemblerSuffix.length := by decide
    omega
  cases first <;> cases second <;> simp [className, longer, longer.symm]

theorem fileName_ne_dots (kind : ArtifactKind) (dtoName : String) :
    kind.fileName dtoName ≠ "." ∧ kind.fileName dtoName ≠ ".." := by
  -- The extension alone is longer than both.
  have size : 4 ≤ (kind.fileName dtoName).length := by
    have ending : ("." ++ fileExtension).length = 4 := by decide
    rw [fileName, String.append_assoc, String.length_append, ending]
    omega
  constructor
  · intro dot
    rw [dot] at size
    exact absurd size (by decide)
  · intro dots
    rw [dots] at size
    exact absurd size (by decide)

theorem components_target (kind : ArtifactKind) (container : Container) (identity : ClassIdentity)
    (rootDirectory : String) :
    (kind.target container identity rootDirectory).components =
      (container.basePath.pushAll (directoriesBelow identity rootDirectory)).components ++
        [.name (kind.fileName identity.className)] := by
  obtain ⟨notHere, notUp⟩ := kind.fileName_ne_dots identity.className
  rw [target, placeOf_eq, Path.pushAll, List.foldl_append, ← Path.pushAll]
  exact Path.components_push _ (kind.isName_fileName identity) notHere notUp

/-- The artifacts of a class lie at different places, whatever the class, its root directory and
its container. -/
theorem same_target_iff (first second : ArtifactKind) (container : Container)
    (identity : ClassIdentity) (rootDirectory : String) :
    (first.target container identity rootDirectory).same
        (second.target container identity rootDirectory) = true ↔ first = second := by
  rw [Path.same_iff, components_target, components_target, List.append_right_inj,
    ← className_inj first second identity.className, ← fileName_eq_iff]
  simp

theorem nodup_requested (options : Options) : (requested options).Nodup := by
  unfold requested
  split <;> decide

end ArtifactKind

/-- The artifact of one kind for a request. -/
def PlannedArtifact.ofKind (container : Container) (request : Request) (kind : ArtifactKind) :
    PlannedArtifact :=
  ⟨kind, kind.target container request.identity request.options.rootDirectory,
    Artifact.contentOf request.identity container request.properties request.options kind⟩

/-- The plan of a request whose class belongs to the container. -/
def Plan.ofRequest (container : Container) (request : Request) : Plan :=
  ⟨container,
    (ArtifactKind.requested request.options).map (PlannedArtifact.ofKind container request)⟩

/-- The main artifact comes first. -/
theorem Plan.artifacts_ofRequest (container : Container) (request : Request) :
    ∃ others, (Plan.ofRequest container request).artifacts =
      PlannedArtifact.ofKind container request .main :: others := by
  unfold Plan.ofRequest ArtifactKind.requested
  split
  · exact ⟨_, rfl⟩
  · exact ⟨_, rfl⟩

theorem Plan.mem_ofRequest {request : Request} (withAssembler : request.options.withAssembler = true)
    (container : Container) (kind : ArtifactKind) :
    PlannedArtifact.ofKind container request kind ∈
      (Plan.ofRequest container request).artifacts := by
  apply List.mem_map_of_mem
  cases kind <;> simp [ArtifactKind.requested, withAssembler]

theorem Plan.apart_ofRequest (container : Container) (request : Request) :
    (Plan.ofRequest container request).artifacts.Pairwise
      fun first second => first.path.same second.path = false := by
  apply List.Pairwise.map _ _ (ArtifactKind.nodup_requested request.options)
  intro first second different
  apply Bool.eq_false_iff.mpr
  intro together
  exact different ((ArtifactKind.same_target_iff _ _ _ _ _).mp together)

theorem targets_eq (resolve : Resolver) (request : Request) :
    targets resolve request.identity request.options =
      (resolve request.identity.container).map fun container =>
        (container, (Plan.ofRequest container request).artifacts.map fun artifact =>
          (artifact.kind, artifact.path)) := by
  simp only [targets, Plan.ofRequest, List.map_map]
  rfl

theorem plannedArtifacts_eq (container : Container) (request : Request) :
    plannedArtifacts container request ((Plan.ofRequest container request).artifacts.map
      fun artifact => (artifact.kind, artifact.path)) =
        (Plan.ofRequest container request).artifacts := by
  simp only [plannedArtifacts, render, Plan.ofRequest, List.map_map, List.zipWith_map,
    List.zipWith_self]
  rfl

theorem forM_checkFree (taken : Path → Bool) (artifacts : List PlannedArtifact) :
    ((artifacts.map fun artifact => (artifact.kind, artifact.path)).forM
      fun (_, path) => checkFree taken path) =
      match artifacts.find? (taken ·.path) with
      | some artifact => .error (.targetExists artifact.path)
      | none => .ok () := by
  induction artifacts with
  | nil => rfl
  | cons artifact rest ih =>
    rw [List.map_cons, List.find?_cons]
    cases used : taken artifact.path with
    | true => simp [List.forM, checkFree, used, bind, Except.bind]
    | false =>
      rw [← ih]
      simp [List.forM, checkFree, used, bind, Except.bind]

/-- What planning gives: the container is looked up first, then the targets in their order. -/
theorem prepare_eq (resolve : Resolver) (taken : Path → Bool) (request : Request) :
    prepare resolve taken request =
      match resolve request.identity.container with
      | .error error => .error (.unknownContainer error)
      | .ok container =>
        match (Plan.ofRequest container request).artifacts.find? (taken ·.path) with
        | some artifact => .error (.targetExists artifact.path)
        | none => .ok (Plan.ofRequest container request) := by
  unfold prepare
  rw [targets_eq]
  cases resolve request.identity.container with
  | error error => rfl
  | ok container =>
    simp only [Except.map, forM_checkFree, plannedArtifacts_eq]
    cases (Plan.ofRequest container request).artifacts.find? (taken ·.path) <;> rfl

theorem prepare_ok_iff (resolve : Resolver) (taken : Path → Bool) (request : Request)
    (plan : Plan) :
    prepare resolve taken request = .ok plan ↔
      ∃ container, resolve request.identity.container = .ok container ∧
        plan = Plan.ofRequest container request ∧
        ∀ artifact ∈ plan.artifacts, taken artifact.path = false := by
  rw [prepare_eq]
  cases resolve request.identity.container with
  | error error => simp
  | ok container =>
    constructor
    · intro planned
      dsimp only at planned
      split at planned
      · cases planned
      next free =>
        cases planned
        refine ⟨container, rfl, rfl, fun artifact member => ?_⟩
        have unused := List.find?_eq_none.mp free artifact member
        simpa using unused
    · rintro ⟨other, known, rfl, free⟩
      cases known
      have unused : (Plan.ofRequest container request).artifacts.find? (taken ·.path) = none := by
        apply List.find?_eq_none.mpr
        intro artifact member
        simp [free artifact member]
      simp only [unused]

/-- Planning fails on the container or on a target; it writes nothing that could fail. -/
theorem prepare_error_cases {resolve : Resolver} {taken : Path → Bool} {request : Request}
    {error : GenerationError} (refused : prepare resolve taken request = .error error) :
    (∃ unknown, error = .unknownContainer unknown) ∨ ∃ path, error = .targetExists path := by
  rw [prepare_eq] at refused
  split at refused
  next unknown =>
    cases refused
    exact .inl ⟨_, rfl⟩
  next container =>
    split at refused
    · cases refused
      exact .inr ⟨_, rfl⟩
    · cases refused

/-- When the class itself has a free place, planning can only fail on the assembler. -/
theorem prepare_of_main_free {resolve : Resolver} {taken : Path → Bool} (request : Request)
    {container : Container} (known : resolve request.identity.container = .ok container)
    (free : taken (ArtifactKind.main.target container request.identity
      request.options.rootDirectory) = false) :
    let assembler := ArtifactKind.assembler.target container request.identity
      request.options.rootDirectory
    prepare resolve taken request =
      if request.options.withAssembler && taken assembler then .error (.targetExists assembler)
      else .ok (Plan.ofRequest container request) := by
  intro assembler
  rw [prepare_eq, known]
  cases asked : request.options.withAssembler with
  | false =>
    have artifacts : (Plan.ofRequest container request).artifacts =
        [PlannedArtifact.ofKind container request .main] := by
      simp [Plan.ofRequest, ArtifactKind.requested, asked]
    simp [artifacts, PlannedArtifact.ofKind, free]
  | true =>
    have artifacts : (Plan.ofRequest container request).artifacts =
        [PlannedArtifact.ofKind container request .main,
          PlannedArtifact.ofKind container request .assembler] := by
      simp [Plan.ofRequest, ArtifactKind.requested, asked]
    cases used : taken assembler with
    | false =>
      simp only [assembler] at used
      simp [artifacts, PlannedArtifact.ofKind, free, used]
    | true =>
      simp only [assembler] at used
      simp [artifacts, PlannedArtifact.ofKind, free, used, assembler]

end DtoScaffold
