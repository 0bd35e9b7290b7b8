import DtoScaffold.Proofs.Storage.Tree

/-!
# What calls to a system do to its tree

A system is trusted to do what its calls are documented to do, and may refuse any of them. From
that follows what the operations of its storage do: creating directories adds nothing else, and
writing a new file adds this file with all its bytes or leaves the tree as it was.
-/
namespace DtoScaffold

/-- The calls do to the tree of a system what they are documented to do. A call that fails leaves
the tree as it was; only filling a staged file may have written some of the content. -/
structure System.Documented {σ : Type} [System σ] (tree : σ → Disk) : Prop where
  makeDirectory : ∀ system path mode,
    match System.makeDirectory system path mode with
    | (.ok (), after) => ∃ place, (tree system).freePlace path = .ok place ∧
      (tree system).Sets (tree after) place (some .directory)
    | (.error _, after) => (tree system).Same (tree after)
  stage : ∀ system directory,
    match System.stage system directory with
    | (.ok staged, after) => Disk.entry? (tree system) staged = none ∧
      (tree system).Sets (tree after) staged (some (.file .empty))
    | (.error _, after) => (tree system).Same (tree after)
  fill : ∀ system staged old content, Disk.entry? (tree system) staged = some (.file old) →
    match System.fill system staged content with
    | (.ok (), after) => (tree system).Sets (tree after) staged (some (.file content))
    | (.error _, after) => ∃ written, (tree system).Sets (tree after) staged (some (.file written))
  sync : ∀ system staged, (tree system).Same (tree (System.sync system staged).2)
  setMode : ∀ system staged mode, (tree system).Same (tree (System.setMode system staged mode).2)
  /-- Publishing moves a staged file to a free place. -/
  publish : ∀ system staged path content, Disk.entry? (tree system) staged = some (.file content) →
    match System.publish system staged path with
    | (.ok (), after) => ∃ place cleared, (tree system).newFilePlace path = .ok place ∧
      (tree system).Sets cleared staged none ∧
      cleared.Sets (tree after) place (some (.file content))
    | (.error _, after) => (tree system).Same (tree after)
  discard : ∀ system staged content, Disk.entry? (tree system) staged = some (.file content) →
    (tree system).Sets (tree (System.discard system staged)) staged none

/-! ### A disk is documented -/

namespace Disk

variable {disk : Disk}

theorem freeStagingName?_eq_some {directory : Location} {name : String} {attempts : Nat}
    (drawn : disk.freeStagingName? directory attempts = some name) :
    disk.entry? (directory ++ [name]) = none := by
  induction attempts with
  | zero => cases drawn
  | succ attempt ih =>
    rw [freeStagingName?] at drawn
    split at drawn
    next free =>
      cases drawn
      exact Option.isNone_iff_eq_none.mp free
    · exact ih drawn

theorem stage_cases (disk : Disk) (directory : Path) :
    (∃ staged, disk.entry? staged = none ∧
      disk.stage directory = (.ok staged, disk.addEntry staged (.file .empty))) ∨
    ∃ kind, disk.stage directory = (.error kind, disk) := by
  unfold stage
  cases drawn : disk.stagingPlace directory with
  | error kind => exact .inr ⟨kind, rfl⟩
  | ok staged =>
    refine .inl ⟨staged, ?_, rfl⟩
    simp only [stagingPlace, bind_ok_iff, guard_bind_ok_iff] at drawn
    obtain ⟨_, _, place, _, _, drawn⟩ := drawn
    split at drawn
    · cases drawn
    next name named =>
      cases drawn
      exact freeStagingName?_eq_some named

/-- A disk is its own tree, and its calls are as documented. -/
theorem documented : System.Documented (id : Disk → Disk) where
  makeDirectory disk path mode := by
    simp only [System.makeDirectory, makeDirectory]
    cases free : disk.freePlace path with
    | ok place => exact ⟨place, free, sets_addEntry (freePlace_ok free).1 .directory⟩
    | error kind => exact .refl disk
  stage disk directory := by
    -- Without a name for the answer, its many attempts would be unfolded again and again.
    generalize called : System.stage disk directory = answer
    rcases disk.stage_cases directory with ⟨staged, free, staging⟩ | ⟨kind, refused⟩
    · cases staging.symm.trans called
      exact ⟨free, sets_addEntry free _⟩
    · cases refused.symm.trans called
      exact .refl disk
  fill disk staged old content held := sets_replaceEntry held _
  sync disk _ := .refl disk
  setMode disk _ _ := .refl disk
  publish disk staged path content held := by
    simp only [System.publish, publish]
    cases free : disk.newFilePlace path with
    | error kind => exact .refl disk
    | ok place =>
      have there : disk.entry? staged = some (.file content) := held
      have removed := sets_removeEntry there
      have nothing : Disk.entry? (disk.removeEntry staged) place = none := by
        rw [removed.entries, (newFilePlace_ok free).1, ite_self]
      rw [there]
      exact ⟨place, _, free, removed, sets_addEntry nothing _⟩
  discard disk staged content held := sets_removeEntry held

end Disk

/-! ### What operations do -/

namespace System

section Order

variable {σ : Type} {system after : σ} {call : σ → Except FailureKind Unit × σ}
  {rest : List (σ → Except FailureKind Unit × σ)}

theorem inOrder_cons_ok (done : inOrder system (call :: rest) = (.ok (), after)) :
    ∃ next, call system = (.ok (), next) ∧ inOrder next rest = (.ok (), after) := by
  rw [inOrder] at done
  split at done
  next next called => exact ⟨next, called, done⟩
  · cases done

theorem inOrder_cons_error {kind : FailureKind}
    (failed : inOrder system (call :: rest) = (.error kind, after)) :
    call system = (.error kind, after) ∨
      ∃ next, call system = (.ok (), next) ∧ inOrder next rest = (.error kind, after) := by
  rw [inOrder] at failed
  split at failed
  next next called => exact .inr ⟨next, called, failed⟩
  next called =>
    cases failed
    exact .inl called

end Order

variable {σ : Type} [System σ]

@[simp] theorem unlessDirectory_snd (path : Path) (answer : Except FailureKind Unit × σ) :
    (unlessDirectory path answer).2 = answer.2 := by
  obtain ⟨_ | _, left⟩ := answer <;> rfl

namespace Documented

variable {tree : σ → Disk} (documented : Documented tree)

include documented

theorem grows_makeDirectory (system : σ) (path : Path) (mode : Nat) :
    (tree system).Grows (tree (System.makeDirectory system path mode).2) [] := by
  have made := documented.makeDirectory system path mode
  split at made
  next after called =>
    obtain ⟨place, free, sets⟩ := made
    rw [called]
    exact .of_sets_directory sets (Disk.freePlace_ok free).1
  next called =>
    rw [called]
    exact .of_same made

theorem grows_makeDirectories (system : σ) (paths : List Path) :
    (tree system).Grows (tree (makeDirectories system paths).2) [] := by
  -- Every call adds at most a directory, whichever of them is the last one.
  induction paths generalizing system with
  | nil => exact .refl _
  | cons path above ih =>
    have first := documented.grows_makeDirectory system path directoryMode
    rw [makeDirectories]
    split
    · exact .refl _
    · split
      next left called =>
        rw [called] at first
        have higher := ih left
        split
        next ready made =>
          rw [made] at higher
          have last := documented.grows_makeDirectory ready path directoryMode
          rw [unlessDirectory_snd]
          exact (first.trans higher).trans last
        next made =>
          rw [made] at higher
          exact first.trans higher
      · rw [unlessDirectory_snd]
        exact first

theorem grows_createDirectories (system : σ) (path : Path) :
    (tree system).Grows (tree (Storage.createDirectories system path).2) [] :=
  documented.grows_makeDirectories system (path :: path.parents)

section Completion

variable {base : Disk} {system after : σ} {staged : Location} {entry : Option DiskEntry}
  {old content : ByteArray} {path : Path} {answer : Except FailureKind Unit}

theorem sets_fill (prepared : base.Sets (tree system) staged (some (.file old)))
    (filling : System.fill system staged content = (.ok (), after)) :
    base.Sets (tree after) staged (some (.file content)) := by
  have fills := documented.fill system staged old content prepared.here
  rw [filling] at fills
  exact prepared.trans fills

theorem sets_sync (prepared : base.Sets (tree system) staged entry)
    (syncing : System.sync system staged = (answer, after)) :
    base.Sets (tree after) staged entry := by
  have same := documented.sync system staged
  rw [syncing] at same
  exact prepared.trans_same same

theorem sets_setMode {mode : Nat} (prepared : base.Sets (tree system) staged entry)
    (setting : System.setMode system staged mode = (answer, after)) :
    base.Sets (tree after) staged entry := by
  have same := documented.setMode system staged mode
  rw [setting] at same
  exact prepared.trans_same same

/-- A staged file gets its content and is left alone until it is published. -/
theorem completion_ok (prepared : base.Sets (tree system) staged (some (.file old)))
    (done : inOrder system (completion staged path content) = (.ok (), after)) :
    ∃ ready, base.Sets (tree ready) staged (some (.file content)) ∧
      System.publish ready staged path = (.ok (), after) := by
  obtain ⟨filled, filling, done⟩ := inOrder_cons_ok done
  obtain ⟨synced, syncing, done⟩ := inOrder_cons_ok done
  obtain ⟨ready, setting, done⟩ := inOrder_cons_ok done
  obtain ⟨last, publishing, done⟩ := inOrder_cons_ok done
  cases done
  have whole := documented.sets_fill prepared filling
  have onMedium := documented.sets_sync whole syncing
  exact ⟨ready, documented.sets_setMode onMedium setting, publishing⟩

/-- When one of the calls fails, nothing but the staged file is there. -/
theorem completion_error {kind : FailureKind}
    (prepared : base.Sets (tree system) staged (some (.file old)))
    (failed : inOrder system (completion staged path content) = (.error kind, after)) :
    ∃ written, base.Sets (tree after) staged (some (.file written)) := by
  rcases inOrder_cons_error failed with filling | ⟨filled, filling, failed⟩
  · -- Only here the content may be incomplete.
    have fills := documented.fill system staged old content prepared.here
    rw [filling] at fills
    obtain ⟨written, fills⟩ := fills
    exact ⟨written, prepared.trans fills⟩
  have whole := documented.sets_fill prepared filling
  rcases inOrder_cons_error failed with syncing | ⟨synced, syncing, failed⟩
  · exact ⟨content, documented.sets_sync whole syncing⟩
  have onMedium := documented.sets_sync whole syncing
  rcases inOrder_cons_error failed with setting | ⟨ready, setting, failed⟩
  · exact ⟨content, documented.sets_setMode onMedium setting⟩
  have complete := documented.sets_setMode onMedium setting
  rcases inOrder_cons_error failed with publishing | ⟨_, _, failed⟩
  · have publishes := documented.publish ready staged path content complete.here
    rw [publishing] at publishes
    exact ⟨content, complete.trans_same publishes⟩
  · cases failed

end Completion

/-- A new file is all that is added, and its path denotes it. -/
theorem writeNew_ok {system after : σ} {path : Path} {content : ByteArray}
    (wrote : Storage.writeNew system path content = (.ok (), after)) :
    ∃ place, Disk.entry? (tree system) place = none ∧
      (tree system).Sets (tree after) place (some (.file content)) ∧
      (tree after).locate path = .ok place := by
  change writeNew system path content = _ at wrote
  rw [writeNew] at wrote
  have stages := documented.stage system (stagingDirectory path)
  split at wrote
  · cases wrote
  next staged ready staging =>
    rw [staging] at stages
    obtain ⟨free, prepared⟩ := stages
    split at wrote
    next done =>
      cases wrote
      obtain ⟨complete, sets, publishing⟩ := documented.completion_ok prepared done
      have publishes := documented.publish complete staged path content sets.here
      rw [publishing] at publishes
      obtain ⟨place, cleared, target, clears, published⟩ := publishes
      obtain ⟨nothing, noSlash, directory, last, endsIn, rfl⟩ := Disk.newFilePlace_ok target
      -- Without the staged file the tree is the first one again.
      have same := (sets.trans clears).same free
      have unused : cleared.entry? (directory ++ [last]) = none := by
        rw [clears.entries, nothing, ite_self]
      -- The staged file was no directory, so it is on the way to no file.
      have directories : (tree after).HasDirectoriesOf (tree complete) :=
        (clears.hasDirectoriesOf (by simp [sets.here])).trans
          (published.hasDirectoriesOf (by simp [unused]))
      refine ⟨directory ++ [last], same.entries _ ▸ unused, .of_same same published, ?_⟩
      exact endsIn.locate noSlash directories (published.current.trans clears.current)
        (by simp [published.here])
    · cases wrote

theorem writeNew_error {system after : σ} {path : Path} {content : ByteArray}
    {error : StorageError}
    (refused : Storage.writeNew system path content = (.error error, after)) :
    (tree system).Same (tree after) := by
  change writeNew system path content = _ at refused
  rw [writeNew] at refused
  have stages := documented.stage system (stagingDirectory path)
  split at refused
  next staging =>
    cases refused
    rw [staging] at stages
    exact stages
  next staged ready staging =>
    rw [staging] at stages
    obtain ⟨free, prepared⟩ := stages
    split at refused
    · cases refused
    next left failed =>
      cases refused
      obtain ⟨written, sets⟩ := documented.completion_error prepared failed
      have discards := documented.discard left staged written sets.here
      -- The staged file is the only difference, and its place was free.
      exact (sets.trans discards).same free

end Documented

end System

end DtoScaffold
