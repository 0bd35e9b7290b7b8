import DtoScaffold.Proofs.Generation.Writing
import DtoScaffold.Proofs.Storage.System

/-!
# Generation on a system of files

Whatever is made of the operations of a system lets its tree grow. Main statement: in any sequence
of operations nothing that is there is touched, each new file is a target of the operation that
adds it and has all its bytes, and a write that fails adds no file.
-/
namespace DtoScaffold

/-- Each target can be read back. -/
def Disk.Holds (disk : Disk) (targets : List (Path × ByteArray)) : Prop :=
  ∀ target ∈ targets, disk.read target.1 = .ok target.2

theorem Disk.holds_nil (disk : Disk) : disk.Holds [] :=
  fun _ member => nomatch member

theorem Disk.holds_cons_iff {disk : Disk} {target : Path × ByteArray}
    {rest : List (Path × ByteArray)} :
    disk.Holds (target :: rest) ↔ disk.read target.1 = .ok target.2 ∧ disk.Holds rest :=
  List.forall_mem_cons

theorem Disk.holds_singleton {disk : Disk} {path : Path} {content : ByteArray}
    (stored : disk.read path = .ok content) : disk.Holds [(path, content)] :=
  holds_cons_iff.mpr ⟨stored, disk.holds_nil⟩

namespace System.Documented

variable {σ : Type} [System σ] {tree : σ → Disk} (documented : Documented tree)

include documented

theorem grows_makeRoom (system : σ) (path : Path) :
    (tree system).Grows (tree (makeRoom system path).2) [] := by
  unfold makeRoom
  split
  · exact .refl _
  next parent _ =>
    have grows := documented.grows_createDirectories system parent
    split
    · exact .refl _
    · split
      next created => rwa [created] at grows
      next created => rwa [created] at grows

theorem writeFile_ok {system after : σ} {path : Path} {text : String}
    (wrote : writeFile system path text = (.ok (), after)) :
    (tree system).Grows (tree after) [(path, (withPreamble text).toUTF8)] ∧
      (tree after).read path = .ok (withPreamble text).toUTF8 := by
  have roomed := documented.grows_makeRoom system path
  unfold writeFile at wrote
  split at wrote
  · cases wrote
  next ready made =>
    rw [made] at roomed
    split at wrote
    next stored =>
      cases wrote
      obtain ⟨place, free, sets, located⟩ := documented.writeNew_ok stored
      exact ⟨roomed.trans (.of_sets_file sets free located),
        Disk.read_ok_iff.mpr ⟨place, located, sets.here⟩⟩
    · cases wrote

/-- A file that cannot be written leaves at most the directories made for it. -/
theorem writeFile_error {system after : σ} {path : Path} {text : String} {error : GenerationError}
    (refused : writeFile system path text = (.error error, after)) :
    (tree system).Grows (tree after) [] := by
  have roomed := documented.grows_makeRoom system path
  unfold writeFile at refused
  split at refused
  next made =>
    cases refused
    rwa [made] at roomed
  next ready made =>
    rw [made] at roomed
    split at refused
    · cases refused
    next failed =>
      cases refused
      exact roomed.trans (.of_same (documented.writeNew_error failed))

theorem writeArtifacts (system : σ) (artifacts : List PlannedArtifact) :
    let written := artifacts.map PlannedArtifact.entry
    match DtoScaffold.writeArtifacts system artifacts with
    | (.ok (), after) => (tree system).Grows (tree after) written ∧ (tree after).Holds written
    | (.error _, after) => (tree system).Grows (tree after) written := by
  induction artifacts generalizing system with
  | nil => exact ⟨.refl _, (tree system).holds_nil⟩
  | cons artifact rest ih =>
    rw [writeArtifacts_cons]
    cases wrote : writeFile system artifact.path artifact.content with
    | mk verdict left =>
      cases verdict with
      | error error => exact (documented.writeFile_error wrote).mono (List.nil_subset _)
      | ok =>
        obtain ⟨first, stored⟩ := documented.writeFile_ok wrote
        -- The first file stays readable while the others are written.
        have later := ih left
        dsimp only
        split at later
        next after written =>
          rw [written]
          exact ⟨first.trans later.1, Disk.holds_cons_iff.mpr ⟨later.1.read stored, later.2⟩⟩
        next written =>
          rw [written]
          exact first.trans later

end System.Documented

/-- What is asked of a system of files. -/
inductive FileOperation
  | createDirectories (path : Path)
  | writeNew (path : Path) (content : ByteArray)
  | checkFree (path : Path)
  | writeFile (path : Path) (text : String)
  | generate (resolve : Resolver) (request : Request)

namespace FileOperation

/-- Perform an operation. The answer is whether it succeeded. -/
def perform {σ : Type} [Storage σ] (operation : FileOperation) (storage : σ) : Bool × σ :=
  match operation with
  | createDirectories path => (Storage.createDirectories storage path).map Except.isOk id
  | writeNew path content => (Storage.writeNew storage path content).map Except.isOk id
  | checkFree path => ((DtoScaffold.checkFree (Storage.taken storage) path).isOk, storage)
  | writeFile path text => (DtoScaffold.writeFile storage path text).map Except.isOk id
  | generate resolve request =>
    (DtoScaffold.generate resolve storage request).map Except.isOk id

/-- The files that an operation is to add, with their bytes. -/
def targets {σ : Type} [Storage σ] (operation : FileOperation) (storage : σ) :
    List (Path × ByteArray) :=
  match operation with
  | writeNew path content => [(path, content)]
  | writeFile path text => [(path, (withPreamble text).toUTF8)]
  | generate resolve request =>
    match prepare resolve (Storage.taken storage) request with
    | .ok plan => plan.artifacts.map PlannedArtifact.entry
    | .error _ => []
  | _ => []

def performAll {σ : Type} [Storage σ] (operations : List FileOperation) (storage : σ) : σ :=
  operations.foldl (fun storage operation => (operation.perform storage).2) storage

/-- The targets of operations that are performed one after the other. -/
def allTargets {σ : Type} [Storage σ] (storage : σ) :
    List FileOperation → List (Path × ByteArray)
  | [] => []
  | operation :: rest =>
    operation.targets storage ++ allTargets (operation.perform storage).2 rest

/-- What an operation with some targets does to a tree, given whether it succeeded. -/
structure Sound (operation : FileOperation) (targets : List (Path × ByteArray)) (done : Bool)
    (before after : Disk) : Prop where
  grows : before.Grows after targets
  holds : done = true → after.Holds targets
  /-- Checks and failed writes of new files change nothing; a failed write of a text makes at most
  directories. -/
  restrained : match operation, done with
    | checkFree _, _ => before.Same after
    | writeNew _ _, false => before.Same after
    | writeFile _ _, false => before.Grows after []
    | _, _ => True

variable {σ : Type} [System σ] {tree : σ → Disk}

/-- One operation is sound. -/
theorem sound_perform (documented : System.Documented tree) (operation : FileOperation)
    (system : σ) :
    operation.Sound (operation.targets system) (operation.perform system).1 (tree system)
      (tree (operation.perform system).2) := by
  cases operation with
  | createDirectories path =>
    have grows := documented.grows_createDirectories system path
    exact ⟨grows, fun _ => Disk.holds_nil _, trivial⟩
  | checkFree path => exact ⟨.refl _, fun _ => Disk.holds_nil _, .refl _⟩
  | writeNew path content =>
    simp only [perform, targets]
    cases wrote : Storage.writeNew system path content with
    | mk answer after =>
      cases answer with
      | ok =>
        obtain ⟨place, free, sets, located⟩ := documented.writeNew_ok wrote
        have stored := Disk.read_ok_iff.mpr ⟨place, located, sets.here⟩
        exact ⟨.of_sets_file sets free located, fun _ => Disk.holds_singleton stored, trivial⟩
      | error error =>
        have same := documented.writeNew_error wrote
        exact ⟨.of_same same, Bool.noConfusion, same⟩
  | writeFile path text =>
    simp only [perform, targets]
    cases wrote : DtoScaffold.writeFile system path text with
    | mk answer after =>
      cases answer with
      | ok =>
        obtain ⟨grows, stored⟩ := documented.writeFile_ok wrote
        exact ⟨grows, fun _ => Disk.holds_singleton stored, trivial⟩
      | error error =>
        have grows := documented.writeFile_error wrote
        exact ⟨grows.mono (List.nil_subset _), Bool.noConfusion, grows⟩
  | generate resolve request =>
    simp only [perform, targets, DtoScaffold.generate]
    cases prepare resolve (Storage.taken system) request with
    | error error => exact ⟨.refl _, Bool.noConfusion, trivial⟩
    | ok plan =>
      have written := documented.writeArtifacts system plan.artifacts
      dsimp only at written ⊢
      cases wrote : DtoScaffold.writeArtifacts system plan.artifacts with
      | mk verdict after =>
        rw [wrote] at written
        cases verdict with
        | ok => exact ⟨written.1, fun _ => written.2, trivial⟩
        | error error => exact ⟨written, Bool.noConfusion, trivial⟩

theorem grows_performAll (documented : System.Documented tree) (operations : List FileOperation)
    (system : σ) :
    (tree system).Grows (tree (performAll operations system)) (allTargets system operations) := by
  induction operations generalizing system with
  | nil => exact .refl _
  | cons operation rest ih =>
    exact (sound_perform documented operation system).grows.trans (ih _)

end FileOperation

open FileOperation

/-- Whatever a system refuses, operations only add to its tree. In any sequence every operation
keeps all files and directories with their contents, and each file it adds is at the path of one of
its targets and has all its bytes, so nothing staged is left over. When it succeeds, its targets can
be read. A check and a failed write of a new file change nothing, and a failed write of a text adds
at most directories. The same growth holds from the start of the sequence to its end. -/
theorem operations_only_add_targets {σ : Type} [System σ] {tree : σ → Disk}
    (documented : System.Documented tree) (start : σ) (operations : List FileOperation) :
    (∀ earlier operation later, operations = earlier ++ operation :: later →
      let before := performAll earlier start
      let answer := operation.perform before
      operation.Sound (operation.targets before) answer.1 (tree before) (tree answer.2)) ∧
    (tree start).Grows (tree (performAll operations start)) (allTargets start operations) :=
  ⟨fun _ operation _ _ => sound_perform documented operation _,
    grows_performAll documented operations start⟩

/-- On a disk a file is written with its directory, and is then in the way of another one. -/
theorem operations_only_add_targets_post :
    let path : Path := ⟨"/srv/Model/PostDTO.php"⟩
    let bytes := "<?php\n\nclass PostDTO\n".toUTF8
    let first : FileOperation := .writeFile path "class PostDTO\n"
    let second : FileOperation := .writeNew path .empty
    let start := Disk.fresh ["srv"]
    let written := performAll [first] start
    let final := (second.perform written).2
    System.Documented (id : Disk → Disk) ∧ (first.perform start).1 = true ∧
      (second.perform written).1 = false ∧ start.Grows written [(path, bytes)] ∧
      written.Same final ∧ final.read path = .ok bytes := by
  intro path bytes first second start written final
  have wrote : (first.perform start).1 = true := by decide +kernel
  have refused : (second.perform written).1 = false := by decide +kernel
  obtain ⟨sound, _⟩ := operations_only_add_targets Disk.documented start [first, second]
  have one := sound [] first [second] rfl
  have two := sound [first] second [] rfl
  dsimp only at two
  rw [refused] at two
  have same : written.Same final := two.restrained
  have stored : written.read path = .ok bytes := (Disk.holds_cons_iff.mp (one.holds wrote)).1
  exact ⟨Disk.documented, wrote, refused, one.grows, same, two.grows.read stored⟩

end DtoScaffold
