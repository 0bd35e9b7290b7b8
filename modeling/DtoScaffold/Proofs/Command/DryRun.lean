import DtoScaffold.Proofs.Command.Generate
import DtoScaffold.Proofs.Generation.Agreement
import DtoScaffold.Proofs.Generation.Growth

/-!
# Showing the files instead of writing them

The option to show the files counts only when the command has a plan. Main statement: a run that
shows changes nothing, fails where a run that writes would fail before its first file, and otherwise
shows the paths and bytes of exactly the files that are written when all writes succeed.
-/
namespace DtoScaffold

namespace Command

/-! ### What is shown -/

def headingBytes (path : Path) : ByteArray :=
  ("// " ++ path.text ++ "\n").toUTF8

/-- Files under headings with their paths, and a line end between a file and the next heading. -/
def shownBytes : List (Path × ByteArray) → ByteArray
  | [] => .empty
  | [(path, bytes)] => headingBytes path ++ bytes
  | (path, bytes) :: next :: rest =>
    headingBytes path ++ bytes ++ "\n".toUTF8 ++ shownBytes (next :: rest)

private theorem toUTF8_append (first second : String) :
    (first ++ second).toUTF8 = first.toUTF8 ++ second.toUTF8 :=
  String.toByteArray_append

theorem toUTF8_shownFile (artifact : PlannedArtifact) :
    (shownFile artifact).toUTF8 = headingBytes artifact.path ++ artifact.bytes :=
  toUTF8_append _ _

theorem toUTF8_shownFiles (plan : Plan) :
    (shownFiles plan).toUTF8 = shownBytes (plan.artifacts.map PlannedArtifact.entry) := by
  rw [shownFiles]
  induction plan.artifacts with
  | nil => rfl
  | cons artifact rest ih =>
    cases rest with
    | nil => exact toUTF8_shownFile artifact
    | cons next rest =>
      simp only [List.map_cons] at ih ⊢
      rw [String.intercalate_cons_cons, toUTF8_append, toUTF8_append, ih, toUTF8_shownFile]
      rfl

/-- The content ends with the line of a closing brace, so a line end after it is an empty line. -/
def EndsWithBrace (content : ByteArray) : Prop :=
  ∃ front, content = front ++ "\x7d\n".toUTF8

theorem endsWithBrace_ofKind (container : Container) (request : Request) (kind : ArtifactKind) :
    EndsWithBrace (PlannedArtifact.ofKind container request kind).bytes := by
  obtain ⟨body, content⟩ := PlannedArtifact.exists_content_ofKind container request kind
  obtain ⟨inside, printed⟩ := Php.print_classItems
    ("\\".intercalate (container.namespaceSegments ++
      directoriesBelow request.identity request.options.rootDirectory))
    (kind.className request.identity.className) body
  rw [PlannedArtifact.bytes, content, printed, ← String.append_assoc, ← String.append_assoc]
  exact ⟨_, toUTF8_append _ _⟩

/-- What is shown for a plan: its paths in order, each with a content that can be followed. -/
structure Shows (plan : Plan) (output : String) (files : List (Path × ByteArray)) : Prop where
  paths : files.map Prod.fst = plan.artifacts.map PlannedArtifact.path
  output : output.toUTF8 = shownBytes files
  ended : ∀ file ∈ files, EndsWithBrace file.2

theorem shows_shownFiles {resolve : Resolver} {taken : Path → Bool} {request : Request}
    {plan : Plan} (planned : prepare resolve taken request = .ok plan) :
    Shows plan (shownFiles plan) (plan.artifacts.map PlannedArtifact.entry) := by
  refine ⟨by simp [PlannedArtifact.entry], toUTF8_shownFiles plan, ?_⟩
  obtain ⟨container, _, rfl, _⟩ := (prepare_ok_iff _ _ _ _).mp planned
  intro file member
  obtain ⟨artifact, inside, rfl⟩ := List.mem_map.mp member
  obtain ⟨kind, _, rfl⟩ := List.mem_map.mp inside
  exact endsWithBrace_ofKind container request kind

/-! ### Running with and without the option -/

/-- What a run that shows does, next to the run that writes. Failures of writing are the only ones
that the other run has for itself. -/
structure DryRun {σ : Type} (storage : σ) (dry wet : Execution σ) : Prop where
  untouched : dry.storage = storage
  fails : ∀ error, dry.result = .error error ↔
    wet.result = .error error ∧ ∀ cause, error ≠ .writeFailed cause
  alike : ∀ error, dry.result = .error error → wet = dry
  succeeds : dry.result = .ok () ↔
    wet.result = .ok () ∨ ∃ cause, wet.result = .error (.writeFailed cause)

namespace DryRun

variable {σ : Type} {storage : σ} {dry wet : Execution σ}

theorem of_error {error : CommandError} (failed : dry.result = .error error)
    (planless : ∀ cause, error ≠ .writeFailed cause) (untouched : dry.storage = storage) :
    DryRun storage dry dry := by
  -- Both runs are one, so only the kind of its error is left to say.
  refine ⟨untouched, fun other => ⟨fun again => ⟨again, ?_⟩, And.left⟩, fun _ _ => rfl, ?_⟩
  · cases failed.symm.trans again
    exact planless
  · constructor
    · exact .inl
    · rintro (done | ⟨cause, again⟩)
      · exact done
      · cases failed.symm.trans again
        exact absurd rfl (planless cause)

theorem of_plan {failure : Option GenerationError} (done : dry.result = .ok ())
    (untouched : dry.storage = storage)
    (wrote : wet.result = failure.elim (.ok ()) (.error ∘ .writeFailed)) :
    DryRun storage dry wet := by
  refine ⟨untouched, fun error => ⟨fun failed => ?_, fun failed => ?_⟩, fun error failed => ?_, ?_⟩
  · cases done.symm.trans failed
  · cases failure with
    | none => cases wrote.symm.trans failed.1
    | some cause =>
      cases wrote.symm.trans failed.1
      exact absurd rfl (failed.2 cause)
  · cases done.symm.trans failed
  · cases failure with
    | none => exact iff_of_true done (.inl wrote)
    | some cause => exact iff_of_true done (.inr ⟨cause, wrote⟩)

end DryRun

namespace Call

variable {call : Call} {taken : Path → Bool} {config : Config}

/-- The call without an input, which shows the files or writes them. -/
def unasked (call : Call) (stdout : Bool) : Call :=
  { call with input := none, arguments := { call.arguments with stdout } }

/-- The call without an input makes a request that can be planned. -/
def Plans (call : Call) (taken : Path → Bool) (plan : Plan) : Prop :=
  ∃ config request, (∀ stdout, (call.unasked stdout).Requests taken config request "") ∧
    prepare (call.resolve config) taken request = .ok plan

/-- A request does not depend on what is done with its files. -/
theorem Requests.unasked {stdout : Bool} {request : Request} {shown : String}
    (requests : (call.unasked stdout).Requests taken config request shown) (other : Bool) :
    (call.unasked other).Requests taken config request "" := by
  cases requests with
  | fromArguments reads unasked named parsed =>
    exact .fromArguments ⟨reads.loaded, reads.read⟩ rfl named parsed
  | fromSession _ asked => cases asked

theorem Stops.ne_writeFailed {error : CommandError} (stops : call.Stops taken error)
    (cause : GenerationError) : error ≠ .writeFailed cause := by
  cases stops <;> exact nofun

section Running

variable {σ : Type} [Storage σ] {storage : σ} {plan : Plan}

/-- Choosing a request does not read the option. -/
theorem chooseRequest_stdout (config : Config) (resolve : Resolver) (taken : Path → Bool)
    (colored : Bool) (arguments : GenerateArguments) (stdout : Bool) :
    chooseRequest config resolve taken colored { arguments with stdout } none =
      chooseRequest config resolve taken colored arguments none := by
  simp only [chooseRequest, givenProperties, requestFromArguments, optionsFor, rootFor]

/-- A run that shows can only fail before it has a plan, and then the run that writes is the
same. -/
theorem unasked_run_of_error {error : CommandError}
    (failed : ((call.unasked true).run storage).result = .error error) :
    (call.unasked false).run storage = (call.unasked true).run storage := by
  simp only [run, Command.generate, Call.unasked, chooseRequest_stdout] at failed ⊢
  -- The configuration, the request and the plan are the same in both runs, one after the other.
  split at failed
  · rfl
  · split at failed
    · rfl
    · split at failed
      · rfl
      · cases failed

theorem Plans.run_showing (plans : call.Plans (Storage.taken storage) plan) :
    (call.unasked true).run storage = ⟨.ok (), shownFiles plan, storage⟩ := by
  obtain ⟨config, request, requests, planned⟩ := plans
  have prepared : prepare ((call.unasked true).resolve config) (Storage.taken storage) request =
      .ok plan := planned
  rw [(requests true).run_eq, planRequest, prepared]
  simp [carryOut, Call.unasked]

/-- The run that writes does what the writing of the artifacts does. -/
theorem Plans.run_writing (plans : call.Plans (Storage.taken storage) plan) :
    ∃ failure : Option GenerationError,
      ((call.unasked false).run storage).result = failure.elim (.ok ()) (.error ∘ .writeFailed) ∧
        writeArtifacts storage plan.artifacts =
          (failure.elim (.ok ()) .error, ((call.unasked false).run storage).storage) := by
  obtain ⟨config, request, requests, planned⟩ := plans
  have carried := (requests false).run_of_planned planned rfl
  have reports := reports_writeReporting call.colored storage plan.artifacts
  rw [carried]
  exact ⟨_, rfl, reports.writeArtifacts_eq⟩

/-- A call without an input is stopped or has a plan, whatever it does with the files. -/
theorem unasked_cases (call : Call) (storage : σ) :
    (∃ error, (∀ cause, error ≠ .writeFailed cause) ∧
      ((call.unasked true).run storage).result = .error error ∧
      ((call.unasked true).run storage).storage = storage) ∨
    ∃ plan, call.Plans (Storage.taken storage) plan := by
  rcases stops_or_plans (call.unasked true) (Storage.taken storage) with
    ⟨error, stops⟩ | ⟨config, request, shown, plan, requests, planned⟩
  · obtain ⟨shown, stopped⟩ := stops.run_eq
    exact .inl ⟨error, stops.ne_writeFailed, by rw [stopped], by rw [stopped]⟩
  · exact .inr ⟨plan, config, request, requests.unasked, planned⟩

theorem dryRun_unasked (call : Call) (storage : σ) :
    DryRun storage ((call.unasked true).run storage) ((call.unasked false).run storage) := by
  rcases call.unasked_cases storage with ⟨error, planless, failed, untouched⟩ | ⟨plan, plans⟩
  · rw [unasked_run_of_error failed]
    exact .of_error failed planless untouched
  · obtain ⟨failure, wrote, _⟩ := plans.run_writing
    rw [plans.run_showing]
    exact .of_plan rfl rfl wrote

/-- A run that shows and succeeds has a plan and shows its files. -/
theorem shows_of_ok (done : ((call.unasked true).run storage).result = .ok ()) :
    ∃ plan, call.Plans (Storage.taken storage) plan ∧
      Shows plan ((call.unasked true).run storage).output
        (plan.artifacts.map PlannedArtifact.entry) := by
  rcases call.unasked_cases storage with ⟨error, _, failed, _⟩ | ⟨plan, plans⟩
  · cases done.symm.trans failed
  · refine ⟨plan, plans, ?_⟩
    rw [plans.run_showing]
    obtain ⟨_, _, _, planned⟩ := plans
    exact shows_shownFiles planned

end Running

/-- A memory that does not fail stores the files of a plan. -/
theorem Plans.stored_in_memory {memory : Memory} {plan : Plan}
    (plans : call.Plans (Storage.taken memory) plan) (working : memory.failing = none) :
    let written := (call.unasked false).run memory
    written.result = .ok () ∧ ∀ file ∈ plan.artifacts.map PlannedArtifact.entry,
      written.storage.content? file.1 = some file.2 := by
  intro written
  obtain ⟨failure, result, wrote⟩ := plans.run_writing
  obtain ⟨config, request, _, planned⟩ := plans
  obtain ⟨after, generated, stored⟩ := Memory.generate_of_working planned working
  have same := (generate_of_planned planned wrote).symm.trans generated
  cases failure with
  | some cause => cases congrArg Prod.fst same
  | none =>
    refine ⟨result, fun file member => ?_⟩
    obtain ⟨artifact, inside, rfl⟩ := List.mem_map.mp member
    have left : written.storage = after := congrArg Prod.snd same
    rw [left]
    exact (stored.new artifact inside).2

/-- A system of files holds the files of a plan when they were written. -/
theorem Plans.held_by_system {σ : Type} [System σ] {tree : σ → Disk}
    (documented : System.Documented tree) {system : σ} {plan : Plan}
    (plans : call.Plans (Storage.taken system) plan) :
    let written := (call.unasked false).run system
    written.result = .ok () →
      (tree written.storage).Holds (plan.artifacts.map PlannedArtifact.entry) := by
  intro written done
  obtain ⟨failure, result, wrote⟩ := plans.run_writing
  have stored := documented.writeArtifacts system plan.artifacts
  cases failure with
  | some cause => cases done.symm.trans result
  | none =>
    rw [wrote] at stored
    exact stored.2

/-- A run that shows is a dry run. It changes nothing, and it fails where the run that writes fails
before its first file. Otherwise it shows the files of the plan: a memory that does not fail stores
exactly these, and a system of files has them whenever it could write them. The same holds on a disk
that has the configuration file as well. -/
theorem showing_is_dry_run (call : Call) :
    (∀ (σ : Type) [Storage σ] (storage : σ),
      DryRun storage ((call.unasked true).run storage) ((call.unasked false).run storage)) ∧
    (∀ memory : Memory,
      let shown := (call.unasked true).run memory
      let written := (call.unasked false).run (memory.setFailing none)
      shown.result = .ok () → ∃ plan files, call.Plans memory.taken plan ∧
        Shows plan shown.output files ∧ written.result = .ok () ∧
        ∀ file ∈ files, written.storage.content? file.1 = some file.2) ∧
    (∀ (σ : Type) [System σ] (tree : σ → Disk) (system : σ), System.Documented tree →
      let shown := (call.unasked true).run system
      let written := (call.unasked false).run system
      shown.result = .ok () → ∃ plan files, call.Plans (Storage.taken system) plan ∧
        Shows plan shown.output files ∧
        (written.result = .ok () → (tree written.storage).Holds files)) ∧
    (∀ disk,
      let run (stdout : Bool) := generateOnDisk call.directory call.colored
        { call.arguments with stdout } none disk
      DryRun disk (run true) (run false) ∧
        ((run true).result = .ok () → ∃ configFile plan files,
          configFile? disk call.directory = .ok configFile ∧
          { call with configFile }.Plans (Storage.taken disk) plan ∧
          Shows plan (run true).output files ∧
          ((run false).result = .ok () → (run false).storage.Holds files))) := by
  refine ⟨fun σ _ storage => dryRun_unasked call storage, ?_, ?_, ?_⟩
  · intro memory shown written done
    obtain ⟨plan, plans, shows⟩ := shows_of_ok done
    -- Whether a memory fails has no part in the plan.
    have planned : call.Plans (Storage.taken (memory.setFailing none)) plan := plans
    obtain ⟨success, stored⟩ := planned.stored_in_memory rfl
    exact ⟨plan, _, plans, shows, success, stored⟩
  · intro σ _ tree system documented shown written done
    obtain ⟨plan, plans, shows⟩ := shows_of_ok done
    exact ⟨plan, _, plans, shows, plans.held_by_system documented⟩
  · intro disk run
    cases found : configFile? disk call.directory with
    | error error =>
      have stopped (stdout : Bool) : run stdout = ⟨.error (.config error), "", disk⟩ := by
        simp only [run, generateOnDisk, found]
      rw [stopped, stopped]
      exact ⟨.of_error rfl nofun rfl, nofun⟩
    | ok configFile =>
      -- The disk is read once, and from there on it is a storage like any other.
      let configured := { call with configFile }
      have runs (stdout : Bool) : run stdout = (configured.unasked stdout).run disk := by
        simp only [run, generateOnDisk, found]
        rfl
      rw [runs, runs]
      refine ⟨dryRun_unasked configured disk, fun done => ?_⟩
      obtain ⟨plan, plans, shows⟩ := shows_of_ok done
      exact ⟨configFile, plan, _, rfl, plans, shows, plans.held_by_system Disk.documented⟩

/-- A class and its assembler are shown although the memory fails, and a memory that does not fail
stores what is shown. -/
theorem showing_is_dry_run_post :
    let configFile :=
      "\x7b\"containers\":\x7b\"App\":\x7b\"path\":\"src\",\"namespace\":\"App\"\x7d\x7d\x7d"
    let call : Call := ⟨some configFile.toUTF8, ⟨"/srv"⟩, false,
      ⟨some "App:PostDTO", some "string:title", none, true, none, true, false⟩, none⟩
    let memory := Memory.empty.setFailing (some .storageFull)
    let shown := (call.unasked true).run memory
    let written := (call.unasked false).run (memory.setFailing none)
    shown.result = .ok () ∧ shown.storage = memory ∧ written.result = .ok () ∧
      ∃ files, files ≠ [] ∧ shown.output.toUTF8 = shownBytes files ∧
        ∀ file ∈ files, written.storage.content? file.1 = some file.2 := by
  intro configFile call memory shown written
  have done : shown.result = .ok () := by decide +kernel
  have filled : shown.output.toUTF8 ≠ .empty := by decide +kernel
  obtain ⟨dry, stored, _⟩ := showing_is_dry_run call
  obtain ⟨_, files, _, shows, success, stored⟩ := stored memory done
  refine ⟨done, (dry Memory memory).untouched, success, files, ?_, shows.output, stored⟩
  rintro rfl
  exact filled shows.output

end Call

end Command

end DtoScaffold
