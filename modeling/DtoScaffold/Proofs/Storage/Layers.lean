import DtoScaffold.Generator

/-!
# What generation does to a storage

Placement and generation reach a storage only through its operations. So a relation between states
that every operation respects is respected by every layer above them, and a map between storages
that agrees with the operations agrees with every layer.
-/
namespace DtoScaffold

theorem writeArtifacts_cons {σ : Type} [Storage σ] (storage : σ) (artifact : PlannedArtifact)
    (rest : List PlannedArtifact) :
    writeArtifacts storage (artifact :: rest) =
      match writeFile storage artifact.path artifact.content with
      | (.ok (), left) => writeArtifacts left rest
      | (.error error, left) => (.error error, left) :=
  rfl

/-- A relation between the states of a storage that holds along every operation. -/
structure Evolution {σ : Type} [Storage σ] (Evolves : σ → σ → Prop) : Prop where
  refl : ∀ storage, Evolves storage storage
  trans : ∀ {first second third}, Evolves first second → Evolves second third →
    Evolves first third
  createDirectories : ∀ storage path, Evolves storage (Storage.createDirectories storage path).2
  writeNew : ∀ storage path content, Evolves storage (Storage.writeNew storage path content).2

namespace Evolution

variable {σ : Type} [Storage σ] {Evolves : σ → σ → Prop} (evolution : Evolution Evolves)

include evolution

theorem makeRoom (storage : σ) (path : Path) : Evolves storage (makeRoom storage path).2 := by
  unfold DtoScaffold.makeRoom
  -- Nothing changes without a directory above the path, or when that is there.
  split
  · exact evolution.refl storage
  next parent _ =>
    have created := evolution.createDirectories storage parent
    split
    · exact evolution.refl storage
    · split <;> simpa only [*] using created

theorem writeFile (storage : σ) (path : Path) (text : String) :
    Evolves storage (writeFile storage path text).2 := by
  have roomed := evolution.makeRoom storage path
  unfold DtoScaffold.writeFile
  cases made : DtoScaffold.makeRoom storage path with
  | mk verdict ready =>
    rw [made] at roomed
    have written := evolution.writeNew ready path (withPreamble text).toUTF8
    cases verdict with
    | error error => exact roomed
    | ok =>
      apply evolution.trans roomed
      dsimp only
      cases wrote : Storage.writeNew ready path (withPreamble text).toUTF8 with
      | mk answer left =>
        rw [wrote] at written
        cases answer <;> exact written

theorem writeArtifacts (storage : σ) (artifacts : List PlannedArtifact) :
    Evolves storage (writeArtifacts storage artifacts).2 := by
  induction artifacts generalizing storage with
  | nil => exact evolution.refl storage
  | cons artifact rest ih =>
    have first := evolution.writeFile storage artifact.path artifact.content
    rw [writeArtifacts_cons]
    cases wrote : DtoScaffold.writeFile storage artifact.path artifact.content with
    | mk verdict left =>
      rw [wrote] at first
      cases verdict with
      | error error => exact first
      | ok => exact evolution.trans first (ih left)

theorem generate (resolve : Resolver) (storage : σ) (request : Request) :
    Evolves storage (generate resolve storage request).2 := by
  unfold DtoScaffold.generate
  cases prepare resolve (Storage.taken storage) request with
  | error error => exact evolution.refl storage
  | ok plan =>
    have written := evolution.writeArtifacts storage plan.artifacts
    dsimp only
    cases wrote : DtoScaffold.writeArtifacts storage plan.artifacts with
    | mk verdict left =>
      rw [wrote] at written
      cases verdict <;> exact written

end Evolution

/-- A map between storages under which every operation gives the same answer and leaves the state
that the map gives. -/
structure Simulation {σ τ : Type} [Storage σ] [Storage τ] (view : σ → τ) : Prop where
  taken : ∀ storage path, Storage.taken (view storage) path = Storage.taken storage path
  createDirectories : ∀ storage path, Storage.createDirectories (view storage) path =
    (Storage.createDirectories storage path).map id view
  writeNew : ∀ storage path content, Storage.writeNew (view storage) path content =
    (Storage.writeNew storage path content).map id view

namespace Simulation

variable {σ τ : Type} [Storage σ] [Storage τ] {view : σ → τ} (simulation : Simulation view)

include simulation

theorem makeRoom (storage : σ) (path : Path) :
    makeRoom (view storage) path = (makeRoom storage path).map id view := by
  unfold DtoScaffold.makeRoom
  cases path.parent? with
  | none => rfl
  | some parent =>
    simp only [simulation.taken, simulation.createDirectories]
    split
    · rfl
    · cases created : Storage.createDirectories storage parent with
      | mk verdict left => cases verdict <;> rfl

theorem writeFile (storage : σ) (path : Path) (text : String) :
    writeFile (view storage) path text = (writeFile storage path text).map id view := by
  unfold DtoScaffold.writeFile
  rw [simulation.makeRoom]
  cases DtoScaffold.makeRoom storage path with
  | mk verdict ready =>
    cases verdict with
    | error error => rfl
    | ok =>
      simp only [Prod.map, id, simulation.writeNew]
      cases Storage.writeNew ready path (withPreamble text).toUTF8 with
      | mk answer left => cases answer <;> rfl

theorem writeArtifacts (storage : σ) (artifacts : List PlannedArtifact) :
    writeArtifacts (view storage) artifacts = (writeArtifacts storage artifacts).map id view := by
  induction artifacts generalizing storage with
  | nil => rfl
  | cons artifact rest ih =>
    rw [writeArtifacts_cons, writeArtifacts_cons, simulation.writeFile]
    cases DtoScaffold.writeFile storage artifact.path artifact.content with
    | mk verdict left =>
      cases verdict with
      | error error => rfl
      | ok => exact ih left

theorem generate (resolve : Resolver) (storage : σ) (request : Request) :
    generate resolve (view storage) request = (generate resolve storage request).map id view := by
  -- Both see the same paths as taken, so both make the same plan.
  have seen : Storage.taken (view storage) = Storage.taken storage :=
    funext (simulation.taken storage)
  unfold DtoScaffold.generate
  rw [seen]
  cases prepare resolve (Storage.taken storage) request with
  | error error => rfl
  | ok plan =>
    simp only [simulation.writeArtifacts]
    cases DtoScaffold.writeArtifacts storage plan.artifacts with
    | mk verdict left => cases verdict <;> rfl

end Simulation

end DtoScaffold
