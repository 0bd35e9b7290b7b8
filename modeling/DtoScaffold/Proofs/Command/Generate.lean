import DtoScaffold.Command.Program
import DtoScaffold.Proofs.Generation.Writing

/-!
# The command and the library

The command writes the artifacts of a plan itself, so that it can report on each of them. Main
statement: whatever stops the command before it has a plan leaves the storage as it was, and from
then on it does to the storage what generation does, with a report on every artifact that was
attempted.
-/
namespace DtoScaffold

section Writing

variable {σ : Type} [Storage σ]

theorem writeArtifacts_append {storage left : σ} {first : List PlannedArtifact}
    (wrote : writeArtifacts storage first = (.ok (), left)) (second : List PlannedArtifact) :
    writeArtifacts storage (first ++ second) = writeArtifacts left second := by
  induction first generalizing storage with
  | nil =>
    cases wrote
    rfl
  | cons artifact rest ih =>
    rw [List.cons_append, writeArtifacts]
    rw [writeArtifacts] at wrote
    cases step : writeArtifact storage artifact with
    | mk verdict next =>
      rw [step] at wrote
      cases verdict with
      | error error => cases wrote
      | ok => exact ih wrote

/-- Generation ends like the writing of its plan. -/
theorem generate_of_planned {resolve : Resolver} {storage after : σ} {request : Request}
    {plan : Plan} {failure : Option GenerationError}
    (planned : prepare resolve (Storage.taken storage) request = .ok plan)
    (wrote : writeArtifacts storage plan.artifacts = (failure.elim (.ok ()) .error, after)) :
    generate resolve storage request = (failure.elim (.ok plan) .error, after) := by
  rw [generate, planned]
  simp only [wrote]
  cases failure <;> rfl

namespace Command

/-- The line that tells what became of an artifact. -/
def statusLine (artifact : PlannedArtifact) (status : String) : String :=
  "Generating " ++ artifact.path.text ++ ": " ++ status ++ "\n"

/-- `OK`, in green if the output is colored. -/
def doneLine (colored : Bool) (artifact : PlannedArtifact) : String :=
  statusLine artifact (if colored then "\x1b[32mOK\x1b[0m" else "OK")

/-- `FAILED`, in red if the output is colored. -/
def failedLine (colored : Bool) (artifact : PlannedArtifact) : String :=
  statusLine artifact (if colored then "\x1b[31mFAILED\x1b[0m" else "FAILED")

/-- What is reported while artifacts are written in their order: that each is done, or that the
first one that failed is not, after which none is attempted. -/
inductive Reports (colored : Bool) (storage : σ) (artifacts : List PlannedArtifact) :
    Option GenerationError → String → σ → Prop
  | all {after : σ} (wrote : writeArtifacts storage artifacts = (.ok (), after)) :
      Reports colored storage artifacts none
        (String.join (artifacts.map (doneLine colored))) after
  | upTo {written later : List PlannedArtifact} {refused : PlannedArtifact} {left after : σ}
      {error : GenerationError} (divided : artifacts = written ++ refused :: later)
      (wrote : writeArtifacts storage written = (.ok (), left))
      (failed : writeArtifact left refused = (.error error, after)) :
      Reports colored storage artifacts (some error)
        (String.join (written.map (doneLine colored)) ++ failedLine colored refused) after

/-- The command tells what became of an artifact in these lines. -/
theorem artifactReport_eq (colored : Bool) (artifact : PlannedArtifact) (written : Bool) :
    artifactReport colored artifact written =
      if written then doneLine colored artifact else failedLine colored artifact := by
  have done : Text.painted colored .green "OK" =
      if colored then "\x1b[32mOK\x1b[0m" else "OK" := by cases colored <;> decide
  have failed : Text.painted colored .red "FAILED" =
      if colored then "\x1b[31mFAILED\x1b[0m" else "FAILED" := by cases colored <;> decide
  cases written with
  | true => exact congrArg (statusLine artifact) done
  | false => exact congrArg (statusLine artifact) failed

private theorem Reports.refused (colored : Bool) {storage after : σ} {artifact : PlannedArtifact}
    {error : GenerationError} (failed : writeArtifact storage artifact = (.error error, after))
    (later : List PlannedArtifact) :
    Reports colored storage (artifact :: later) (some error) (failedLine colored artifact)
      after := by
  have first : Reports colored storage ([] ++ artifact :: later) (some error)
      (String.join [] ++ failedLine colored artifact) after := .upTo rfl rfl failed
  rwa [String.join_nil, String.empty_append] at first

private theorem Reports.cons {colored : Bool} {storage left after : σ} {artifact : PlannedArtifact}
    {rest : List PlannedArtifact} {failure : Option GenerationError} {shown : String}
    (done : writeArtifact storage artifact = (.ok (), left))
    (reports : Reports colored left rest failure shown after) :
    Reports colored storage (artifact :: rest) failure (doneLine colored artifact ++ shown)
      after := by
  have next (others : List PlannedArtifact) :
      writeArtifacts storage (artifact :: others) = writeArtifacts left others := by
    rw [writeArtifacts, done]
  -- The first artifact joins those that were written, wherever the rest ends.
  cases reports with
  | all wrote =>
    rw [← String.join_cons, ← List.map_cons (f := doneLine colored)]
    exact .all ((next rest).trans wrote)
  | @upTo written later refused _ _ error divided wrote failed =>
    rw [← String.append_assoc, ← String.join_cons, ← List.map_cons (f := doneLine colored)]
    exact .upTo (by rw [divided, List.cons_append]) ((next written).trans wrote) failed

theorem reports_writeReporting (colored : Bool) (storage : σ) (artifacts : List PlannedArtifact) :
    let progress := writeReporting colored storage artifacts
    Reports colored storage artifacts progress.failure progress.output progress.storage := by
  induction artifacts generalizing storage with
  | nil => exact .all rfl
  | cons artifact rest ih =>
    rw [writeReporting]
    cases step : writeArtifact storage artifact with
    | mk verdict left =>
      simp only [artifactReport_eq]
      cases verdict with
      | error error => exact .refused colored step rest
      | ok => exact (ih left).cons step

/-- The reports end like the writing of all the artifacts. -/
theorem Reports.writeArtifacts_eq {colored : Bool} {storage after : σ}
    {artifacts : List PlannedArtifact} {failure : Option GenerationError} {shown : String}
    (reports : Reports colored storage artifacts failure shown after) :
    writeArtifacts storage artifacts = (failure.elim (.ok ()) .error, after) := by
  cases reports with
  | all wrote => exact wrote
  | upTo divided wrote failed =>
    -- Writing the first ones leaves the storage in which the next one is refused.
    rw [divided, writeArtifacts_append wrote, writeArtifacts, failed]
    rfl

end Command

end Writing

namespace Command

/-- What a run of the command is given apart from the storage. -/
structure Call where
  configFile : Option ByteArray
  directory : Path
  colored : Bool
  arguments : GenerateArguments
  input : Option ByteArray

namespace Call

def run {σ : Type} [Storage σ] (call : Call) (storage : σ) : Execution σ :=
  generate call.configFile call.directory call.colored call.arguments call.input storage

def resolve (call : Call) (config : Config) : Resolver :=
  (config.registry call.directory).resolve

/-- The session that answers the questions of the wizard from an input. -/
def session (call : Call) (taken : Path → Bool) (config : Config) (list : PropertyList)
    (bytes : ByteArray) : Session :=
  (wizardFor config call.arguments list).run (call.resolve config) taken call.colored bytes

/-- The configuration and the properties of the call can be read. -/
structure Reads (call : Call) (config : Config) (list : PropertyList) : Prop where
  loaded : Config.load call.configFile = .ok config
  read : PropertyList.parse (call.arguments.properties.getD "") = .ok list

/-- The call makes a request, of its arguments alone or in a session that shows a text. -/
inductive Requests (call : Call) (taken : Path → Bool) (config : Config) : Request → String → Prop
  | fromArguments {list : PropertyList} {reference : String} {identity : ClassIdentity}
      (reads : call.Reads config list) (unasked : call.input = none)
      (named : call.arguments.dto = some reference)
      (parsed : ClassIdentity.parse reference = .ok identity) :
      Requests call taken config ⟨identity, list, optionsFor config call.arguments
        (rootFor config call.arguments) call.arguments.withAssembler⟩ ""
  | fromSession {list : PropertyList} {bytes : ByteArray} {outcome : Outcome}
      (reads : call.Reads config list) (asked : call.input = some bytes)
      (finished : (call.session taken config list bytes).result = .ok outcome) :
      Requests call taken config (requestFromOutcome config call.arguments outcome)
        (call.session taken config list bytes).output

/-- What stops a call before it has a plan. -/
inductive Stops (call : Call) (taken : Path → Bool) : CommandError → Prop
  | config {error : ConfigError} (unread : Config.load call.configFile = .error error) :
      Stops call taken (.config error)
  | properties {config : Config} {error : PropertyError}
      (loaded : Config.load call.configFile = .ok config)
      (malformed : PropertyList.parse (call.arguments.properties.getD "") = .error error) :
      Stops call taken (.malformedProperties error)
  | session {config : Config} {list : PropertyList} {bytes : ByteArray} {error : SessionError}
      (reads : call.Reads config list) (asked : call.input = some bytes)
      (broken : (call.session taken config list bytes).result = .error error) :
      Stops call taken (.session error)
  | missingClass {config : Config} {list : PropertyList} (reads : call.Reads config list)
      (unasked : call.input = none) (unnamed : call.arguments.dto = none) :
      Stops call taken .missingClass
  | reference {config : Config} {list : PropertyList} {reference : String} {error : ReferenceError}
      (reads : call.Reads config list) (unasked : call.input = none)
      (named : call.arguments.dto = some reference)
      (malformed : ClassIdentity.parse reference = .error error) :
      Stops call taken (.reference error)
  | container {config : Config} {request : Request} {shown : String} {error : UnknownContainer}
      (requests : call.Requests taken config request shown)
      (unknown : prepare (call.resolve config) taken request = .error (.unknownContainer error)) :
      Stops call taken (.generation (.unknownContainer error))
  | target {config : Config} {request : Request} {shown : String} {path : Path}
      (requests : call.Requests taken config request shown)
      (occupied : prepare (call.resolve config) taken request = .error (.targetExists path)) :
      Stops call taken (.classExists request.identity.shortcut)

variable {call : Call} {taken : Path → Bool} {config : Config}

theorem Reads.chooseRequest_eq {list : PropertyList} (reads : call.Reads config list) :
    chooseRequest config (call.resolve config) taken call.colored call.arguments call.input =
      match call.input with
      | none => (requestFromArguments config call.arguments list, "")
      | some bytes =>
        let session := call.session taken config list bytes
        ((session.result.map (requestFromOutcome config call.arguments)).mapError .session,
          session.output) := by
  have given : givenProperties call.arguments = .ok list := by
    simp [givenProperties, reads.read, Except.mapError]
  rw [chooseRequest, given]
  cases call.input with
  | none => rfl
  | some bytes =>
    simp only [session]
    split
    next finished => rw [finished]; rfl
    next broken => rw [broken]; rfl

theorem Requests.reads {request : Request} {shown : String}
    (requests : call.Requests taken config request shown) : ∃ list, call.Reads config list := by
  cases requests with
  | fromArguments reads => exact ⟨_, reads⟩
  | fromSession reads => exact ⟨_, reads⟩

theorem Requests.chooseRequest_eq {request : Request} {shown : String}
    (requests : call.Requests taken config request shown) :
    chooseRequest config (call.resolve config) taken call.colored call.arguments call.input =
      (.ok request, shown) := by
  cases requests with
  | fromArguments reads unasked named parsed =>
    rw [reads.chooseRequest_eq, unasked]
    simp only [requestFromArguments, named, parsed]
  | fromSession reads asked finished =>
    rw [reads.chooseRequest_eq, asked]
    simp only [finished]
    rfl

/-- With a request in hand, only its planning can stop the call. -/
theorem Requests.run_eq {σ : Type} [Storage σ] {storage : σ} {request : Request} {shown : String}
    (requests : call.Requests (Storage.taken storage) config request shown) :
    call.run storage =
      match planRequest (call.resolve config) (Storage.taken storage) request with
      | .error error => ⟨.error error, shown, storage⟩
      | .ok plan =>
        let execution := carryOut call.colored storage call.arguments request plan
        { execution with output := shown ++ execution.output } := by
  obtain ⟨list, reads⟩ := requests.reads
  have chosen := requests.chooseRequest_eq
  rw [resolve] at chosen
  rw [run, generate, reads.loaded]
  simp only [chosen]
  rfl

/-- A call is stopped or has a plan. -/
theorem stops_or_plans (call : Call) (taken : Path → Bool) :
    (∃ error, call.Stops taken error) ∨ ∃ config request shown plan,
      call.Requests taken config request shown ∧
        prepare (call.resolve config) taken request = .ok plan := by
  -- Both ways to a request go on with its planning.
  have planned {config : Config} {request : Request} {shown : String}
      (requests : call.Requests taken config request shown) :
      (∃ error, call.Stops taken error) ∨ ∃ config request shown plan,
        call.Requests taken config request shown ∧
          prepare (call.resolve config) taken request = .ok plan := by
    cases prepared : prepare (call.resolve config) taken request with
    | ok plan => exact .inr ⟨config, request, shown, plan, requests, prepared⟩
    | error error =>
      rcases prepare_error_cases prepared with ⟨unknown, rfl⟩ | ⟨path, rfl⟩
      · exact .inl ⟨_, .container requests prepared⟩
      · exact .inl ⟨_, .target requests prepared⟩
  cases loaded : Config.load call.configFile with
  | error error => exact .inl ⟨_, .config loaded⟩
  | ok config =>
    cases read : PropertyList.parse (call.arguments.properties.getD "") with
    | error error => exact .inl ⟨_, .properties loaded read⟩
    | ok list =>
      have reads : call.Reads config list := ⟨loaded, read⟩
      cases asked : call.input with
      | some bytes =>
        cases ended : (call.session taken config list bytes).result with
        | error error => exact .inl ⟨_, .session reads asked ended⟩
        | ok outcome => exact planned (.fromSession reads asked ended)
      | none =>
        cases named : call.arguments.dto with
        | none => exact .inl ⟨_, .missingClass reads asked named⟩
        | some reference =>
          cases parsed : ClassIdentity.parse reference with
          | error error => exact .inl ⟨_, .reference reads asked named parsed⟩
          | ok identity => exact planned (.fromArguments reads asked named parsed)

private theorem run_of_no_request {σ : Type} [Storage σ] {storage : σ} {error : CommandError}
    {shown : String} (loaded : Config.load call.configFile = .ok config)
    (refused : chooseRequest config (call.resolve config) (Storage.taken storage) call.colored
      call.arguments call.input = (.error error, shown)) :
    call.run storage = ⟨.error error, shown, storage⟩ := by
  rw [resolve] at refused
  rw [run, generate, loaded]
  simp only [refused]

/-- Whatever stops a call is its result, and the storage stays as it was. -/
theorem Stops.run_eq {σ : Type} [Storage σ] {storage : σ} {error : CommandError}
    (stops : call.Stops (Storage.taken storage) error) :
    ∃ shown, call.run storage = ⟨.error error, shown, storage⟩ := by
  cases stops with
  | config unread => exact ⟨"", by rw [run, generate, unread]⟩
  | @properties _ error loaded malformed =>
    refine ⟨asLine (error.report "--properties" (call.arguments.properties.getD "")),
      run_of_no_request loaded ?_⟩
    rw [chooseRequest, givenProperties, malformed]
    rfl
  | @session config list bytes error reads asked broken =>
    refine ⟨(call.session (Storage.taken storage) config list bytes).output,
      run_of_no_request reads.loaded ?_⟩
    rw [reads.chooseRequest_eq, asked]
    simp only [broken]
    rfl
  | missingClass reads unasked unnamed =>
    refine ⟨"", run_of_no_request reads.loaded ?_⟩
    rw [reads.chooseRequest_eq, unasked]
    simp only [requestFromArguments, unnamed]
  | reference reads unasked named malformed =>
    refine ⟨"", run_of_no_request reads.loaded ?_⟩
    rw [reads.chooseRequest_eq, unasked]
    simp only [requestFromArguments, named, malformed]
  -- Planning only asks which paths are taken, so its failures leave the storage as well.
  | container requests unknown =>
    exact ⟨_, by rw [requests.run_eq, planRequest, unknown]⟩
  | target requests occupied =>
    exact ⟨_, by rw [requests.run_eq, planRequest, occupied]⟩

/-- With a plan in hand, the call shows a summary and then writes the artifacts. -/
theorem Requests.run_of_planned {σ : Type} [Storage σ] {storage : σ} {request : Request}
    {shown : String} {plan : Plan}
    (requests : call.Requests (Storage.taken storage) config request shown)
    (planned : prepare (call.resolve config) (Storage.taken storage) request = .ok plan)
    (writing : call.arguments.stdout = false) :
    let progress := writeReporting call.colored storage plan.artifacts
    call.run storage =
      ⟨progress.failure.elim (.ok ()) (.error ∘ .writeFailed),
        shown ++ (summaryText call.colored request ++ progress.output ++
          closingText call.colored (progress.failure.toList.map GenerationError.message)),
        progress.storage⟩ := by
  rw [requests.run_eq, planRequest, planned]
  simp only [carryOut, writing, Bool.false_eq_true, if_false]
  cases (writeReporting call.colored storage plan.artifacts).failure <;> rfl

/-- What a call stops with leaves the storage as it was. A call that is not stopped has a plan; it
leaves the storage that generation would leave and succeeds exactly when generation does. It reports
each artifact that was written as done, in the order of the plan, and the first one that was refused
as failed. On a disk, the configuration file is read first; a file that cannot be read stops the
call as well. -/
theorem run_writes_like_generate {σ : Type} [Storage σ] (call : Call) (storage : σ)
    (writing : call.arguments.stdout = false) :
    let execution := call.run storage
    let taken := Storage.taken storage
    (∀ error, call.Stops taken error →
      execution.result = .error error ∧ execution.storage = storage) ∧
    (∀ config request shown plan, call.Requests taken config request shown →
      prepare (call.resolve config) taken request = .ok plan →
      let library := DtoScaffold.generate (call.resolve config) storage request
      execution.storage = library.2 ∧ (execution.result = .ok () ↔ library.1 = .ok plan) ∧
        ∃ failure reports,
          Reports call.colored storage plan.artifacts failure reports execution.storage ∧
          execution.result = failure.elim (.ok ()) (.error ∘ .writeFailed) ∧
          library.1 = failure.elim (.ok plan) .error ∧
          execution.output = shown ++ (summaryText call.colored request ++ reports ++
            closingText call.colored (failure.toList.map GenerationError.message))) ∧
    ((∃ error, call.Stops taken error) ∨ ∃ config request shown plan,
      call.Requests taken config request shown ∧
        prepare (call.resolve config) taken request = .ok plan) ∧
    ∀ disk, generateOnDisk call.directory call.colored call.arguments call.input disk =
      match configFile? disk call.directory with
      | .error error => ⟨.error (.config error), "", disk⟩
      | .ok configFile => { call with configFile }.run disk := by
  intro execution taken
  refine ⟨?_, ?_, stops_or_plans call taken, fun disk => rfl⟩
  · intro error stops
    obtain ⟨shown, stopped⟩ := stops.run_eq
    exact ⟨congrArg Execution.result stopped, congrArg Execution.storage stopped⟩
  · intro config request shown plan requests planned library
    have reports := reports_writeReporting call.colored storage plan.artifacts
    have carried : execution = _ := requests.run_of_planned planned writing
    have generated : library = _ := generate_of_planned planned reports.writeArtifacts_eq
    rw [carried, generated]
    refine ⟨rfl, ?_, _, _, reports, rfl, rfl, rfl⟩
    cases (writeReporting call.colored storage plan.artifacts).failure <;> simp

/-- A memory with room for so many more files. -/
structure Limited where
  memory : Memory
  room : Nat

instance : Storage Limited where
  taken storage := storage.memory.taken
  createDirectories storage path :=
    let (verdict, left) := storage.memory.createDirectories path
    (verdict, { storage with memory := left })
  writeNew storage path content :=
    match storage.room with
    | 0 => (.error (.system .storageFull), storage)
    | room + 1 =>
      let (verdict, left) := storage.memory.writeNew path content
      (verdict, ⟨left, room⟩)

/-- A call that writes a class and its assembler, where both fit and where only the class fits. -/
theorem run_writes_like_generate_post :
    let configFile :=
      "\x7b\"containers\":\x7b\"App\":\x7b\"path\":\"src\",\"namespace\":\"App\"\x7d\x7d\x7d"
    let call : Call := ⟨some configFile.toUTF8, ⟨"/srv"⟩, false,
      ⟨some "App:PostDTO", some "string:title", none, true, none, true, false⟩, none⟩
    let config : Config := ⟨[("App", ⟨"src", "App"⟩)], "Model", "mixed"⟩
    let request : Request :=
      ⟨⟨"App", "PostDTO"⟩, ⟨[⟨"title", "string"⟩]⟩, ⟨true, "Model", "mixed"⟩⟩
    let limited (room : Nat) : Limited := ⟨Memory.empty, room⟩
    let run (room : Nat) := call.run (limited room)
    let library (room : Nat) :=
      DtoScaffold.generate (call.resolve config) (limited room) request
    let summary :=
      "\n                             " ++
      "\n  Summary before generation  " ++
      "\n                             \n\n" ++
      "You are going to generate a \"App:PostDTO\" DTO\n" ++
      "with an Assembler class\n\n" ++
      "+---------------+---------------+\n" ++
      "| Property Name | Property Type |\n" ++
      "+---------------+---------------+\n" ++
      "| title         | string        |\n" ++
      "+---------------+---------------+\n\n"
    call.arguments.stdout = false ∧ call.Requests Memory.empty.taken config request "" ∧
      ∃ plan, prepare (call.resolve config) Memory.empty.taken request = .ok plan ∧
        ((run 2).result = .ok () ∧ (run 2).storage = (library 2).2 ∧ (library 2).1 = .ok plan ∧
          (run 2).output = summary ++
            "Generating /srv/src/Model/PostDTO.php: OK\n" ++
            "Generating /srv/src/Model/PostDTOAssembler.php: OK\n" ++
            "\n                                               " ++
            "\n  You can now start using the generated code!  " ++
            "\n                                               \n\n") ∧
        (run 1).result ≠ .ok () ∧ (run 1).storage = (library 1).2 ∧ (library 1).1 ≠ .ok plan ∧
          (run 1).output = summary ++
            "Generating /srv/src/Model/PostDTO.php: OK\n" ++
            "Generating /srv/src/Model/PostDTOAssembler.php: FAILED\n" ++
            "\n                                                                   " ++
            "\n  The command was not able to configure everything automatically.  " ++
            "\n  You must do the following changes manually.                      " ++
            "\n                                                                   \n\n" ++
            "Failed to write \"/srv/src/Model/PostDTOAssembler.php\": " ++
            "No space left on device (os error 28)\n" := by
  intro configFile call config request limited run library summary
  have reads : call.Reads config ⟨[⟨"title", "string"⟩]⟩ := ⟨by decide +kernel, by decide +kernel⟩
  have parsed : ClassIdentity.parse "App:PostDTO" = .ok ⟨"App", "PostDTO"⟩ := by decide +kernel
  have requests : call.Requests Memory.empty.taken config request "" :=
    .fromArguments reads rfl rfl parsed
  have known : call.resolve config "App" = .ok (.named "App" ⟨"/srv/src"⟩ "App") := by
    decide +kernel
  have planned : prepare (call.resolve config) Memory.empty.taken request = .ok _ :=
    (prepare_ok_iff _ _ _ _).mpr ⟨_, known, rfl, fun _ _ => rfl⟩
  -- How much room there is has no part in the request and its plan.
  have same (room : Nat) :=
    (run_writes_like_generate call (limited room) rfl).2.1 config request "" _ requests planned
  have done : (run 2).result = .ok () := by decide +kernel
  have refused : (run 1).result ≠ .ok () := by decide +kernel
  refine ⟨rfl, requests, _, planned,
    ⟨done, (same 2).1, (same 2).2.1.mp done, by decide +kernel⟩, refused, (same 1).1, ?_,
    by decide +kernel⟩
  exact fun success => refused ((same 1).2.1.mpr success)

end Call

end Command

end DtoScaffold
