import DtoScaffold.Command.Program
import DtoScaffold.Proofs.Config
import DtoScaffold.Proofs.Reference
import DtoScaffold.Proofs.Storage.Overwriting

/-!
# The first container of a project

The init command keeps a configuration file or leaves one that is loaded as the starter
configuration. The registry of the project then holds the one container that the arguments describe.
The reference that the command suggests denotes a class of this container exactly when a reference
can tell the container's name. Other names are accepted as well, and no reference ever gets to their
containers.
-/
namespace DtoScaffold.Command

open Text

/-- The configuration of the project in a directory, as the generate command finds and loads it. -/
def loadConfig (disk : Disk) (directory : Path) : Except ConfigError Config := do
  Config.load (← configFile? disk directory)

/-- The container that the arguments describe. -/
def starterContainer (directory : Path) (arguments : InitArguments) : Container :=
  .named arguments.container (directory.push ⟨arguments.path⟩) arguments.namespaceText

/-- The command does not keep what is there and succeeds. -/
structure Creates (directory : Path) (arguments : InitArguments) (disk : Disk) : Prop where
  unkept : disk.taken (configPath directory) = false ∨ arguments.force = true
  done : (init directory arguments disk).result = .ok ()

variable {directory : Path} {arguments : InitArguments} {disk : Disk}

theorem endsInName_configPath (directory : Path) :
    Disk.EndsInName (configPath directory) Config.fileName := by
  have plain : Config.fileName.toList.any (· == '/') = false := by decide
  have isName : IsName Config.fileName := ⟨by decide, by simpa using plain⟩
  exact Disk.endsInName_push directory isName (by decide) (by decide)

theorem keptText_eq :
    keptText = "dtogen.config.json already exists\nUse --force to overwrite\n" := by
  decide

theorem Creates.init_eq (creates : Creates directory arguments disk) :
    ∃ left,
      disk.overwrite (configPath directory) (starterConfig arguments).toJson.indented.toUTF8 =
        (.ok (), left) ∧
      init directory arguments disk = ⟨.ok (), createdText arguments, left⟩ := by
  obtain ⟨unkept, done⟩ := creates
  have goesOn : (disk.taken (configPath directory) && !arguments.force) = false := by
    rcases unkept with free | forced
    · simp [free]
    · simp [forced]
  simp only [init, goesOn, Bool.false_eq_true, if_false] at done ⊢
  split at done
  next left written =>
    rw [written]
    exact ⟨left, rfl, rfl⟩
  · cases done

/-- The command prints a reference to a class of the container as the next step. -/
theorem Creates.output_eq (creates : Creates directory arguments disk) :
    (init directory arguments disk).output =
      "  OK Created dtogen.config.json\n\nNext steps:\n  Run: dtogen generate --dto " ++
        arguments.container ++ ":ExampleDTO\n" := by
  obtain ⟨left, _, ran⟩ := creates.init_eq
  have heading : asLine s!"  OK Created {Config.fileName}" ++ asLine "" ++ asLine "Next steps:" ++
      "  Run: dtogen generate --dto " =
      "  OK Created dtogen.config.json\n\nNext steps:\n  Run: dtogen generate --dto " := by decide
  calc (init directory arguments disk).output
    _ = createdText arguments := by rw [ran]
    _ = asLine s!"  OK Created {Config.fileName}" ++ asLine "" ++ asLine "Next steps:" ++
        ("  Run: dtogen generate --dto " ++ (arguments.container ++ ":ExampleDTO") ++ "\n") := rfl
    _ = "  OK Created dtogen.config.json\n\nNext steps:\n  Run: dtogen generate --dto " ++
        arguments.container ++ ":ExampleDTO\n" := by
      rw [← heading]
      simp only [String.append_assoc]
      rfl

/-- What the command creates is loaded as the starter configuration. -/
theorem Creates.loadConfig_eq (creates : Creates directory arguments disk) :
    loadConfig (init directory arguments disk).storage directory =
      .ok (starterConfig arguments) := by
  obtain ⟨left, written, ran⟩ := creates.init_eq
  have found := Disk.read_of_overwrite (endsInName_configPath directory) written
  have ordered : Config.Ordered (starterConfig arguments).containers := List.pairwise_singleton _ _
  have file : configFile? left directory =
      .ok (some (starterConfig arguments).toJson.indented.toUTF8) := by
    simp only [configFile?, Disk.taken_of_read found, found, if_true]
  rw [ran, loadConfig, file]
  simp only [bind, Except.bind, Config.load_indented ordered]

/-- The registry of the starter configuration holds its container and nothing else. -/
theorem resolve_starterConfig (directory : Path) (arguments : InitArguments) (name : String) :
    ((starterConfig arguments).registry directory).resolve name =
      if name = arguments.container then .ok (starterContainer directory arguments)
      else .error ⟨name, [arguments.container]⟩ := by
  have held : ((starterConfig arguments).registry directory).containers =
      [starterContainer directory arguments] := rfl
  by_cases same : name = arguments.container
  · simp [Registry.resolve, held, same, starterContainer, Container.named]
  · simp [Registry.resolve, Registry.names, held, same, Ne.symm same, starterContainer,
      Container.named]

/-- The command keeps a configuration file that is there unless it is told to force. Otherwise, when
it succeeds, the project has the one container that the arguments describe, and the defaults. -/
theorem init_keeps_or_starts (directory : Path) (arguments : InitArguments) (disk : Disk) :
    (disk.taken (configPath directory) = true → arguments.force = false →
      init directory arguments disk =
        ⟨.ok (), "dtogen.config.json already exists\nUse --force to overwrite\n", disk⟩) ∧
    (Creates directory arguments disk →
      ∃ config, loadConfig (init directory arguments disk).storage directory = .ok config ∧
        config.containers =
          [(arguments.container, ⟨arguments.path, arguments.namespaceText⟩)] ∧
        config.rootDirectory = defaultRootDirectory ∧
        config.assemblerDomainType = defaultDomainType ∧
        (config.registry directory).resolve arguments.container =
          .ok (.named arguments.container (directory.push ⟨arguments.path⟩)
            arguments.namespaceText) ∧
        ∀ name, name ≠ arguments.container →
          (config.registry directory).resolve name = .error ⟨name, [arguments.container]⟩) := by
  constructor
  · intro taken unforced
    simp [init, taken, unforced, keptText_eq]
  · intro creates
    refine ⟨starterConfig arguments, creates.loadConfig_eq, rfl, rfl, rfl, ?_, ?_⟩
    · rw [resolve_starterConfig, if_pos rfl, starterContainer]
    · intro name other
      rw [resolve_starterConfig, if_neg other]

/-- A container with a quote, a backslash and a line end in its name, at an absolute path. The
configuration that is there is kept at first, and replaced when the command is told to force. -/
theorem init_keeps_or_starts_odd_name :
    let disk := (Disk.fresh ["work"]).addEntry ["work", "dtogen.config.json"] (.file "[".toUTF8)
    let gentle : InitArguments := ⟨"A\"\\\n", "/srv/a", "\\A\\", false⟩
    let forced := { gentle with force := true }
    init ⟨"/work"⟩ gentle disk =
        ⟨.ok (), "dtogen.config.json already exists\nUse --force to overwrite\n", disk⟩ ∧
      (init ⟨"/work"⟩ forced disk).result = .ok () ∧
      ∃ config, loadConfig (init ⟨"/work"⟩ forced disk).storage ⟨"/work"⟩ = .ok config ∧
        (config.registry ⟨"/work"⟩).resolve "A\"\\\n" = .ok ⟨"A\"\\\n", ⟨"/srv/a"⟩, "A"⟩ ∧
        (config.registry ⟨"/work"⟩).resolve "A" = .error ⟨"A", ["A\"\\\n"]⟩ := by
  intro disk gentle forced
  have there : disk.taken (configPath ⟨"/work"⟩) = true := by decide +kernel
  have kept := (init_keeps_or_starts ⟨"/work"⟩ gentle disk).1 there rfl
  have creates : Creates ⟨"/work"⟩ forced disk := ⟨.inr rfl, by decide +kernel⟩
  obtain ⟨config, loaded, _, _, _, own, others⟩ :=
    (init_keeps_or_starts ⟨"/work"⟩ forced disk).2 creates
  have container : Container.named "A\"\\\n" ((⟨"/work"⟩ : Path).push ⟨"/srv/a"⟩) "\\A\\" =
      ⟨"A\"\\\n", ⟨"/srv/a"⟩, "A"⟩ := by decide +kernel
  exact ⟨kept, creates.done, config, loaded, own.trans (congrArg Except.ok container),
    others "A" (by decide)⟩

/-! ### The suggested reference -/

theorem parse_exampleReference {container : String}
    (referable : ClassIdentity.Referable container) :
    ClassIdentity.parse (container ++ ":ExampleDTO") = .ok ⟨container, "ExampleDTO"⟩ := by
  have segments : Text.segments "ExampleDTO" = ["ExampleDTO"] := by decide +kernel
  have valid : isIdentifier "ExampleDTO" = true := by decide
  have cut : container ++ ":ExampleDTO" = container ++ ":" ++ "ExampleDTO" := by
    rw [String.append_assoc]
    rfl
  have last : ∀ c ∈ "ExampleDTO".toList.getLast?, isBlank c = false := by
    rintro c ⟨⟩
    rfl
  have denoted : ClassIdentity.parse (container ++ ":" ++ "ExampleDTO") =
      .ok (.ofPath container "ExampleDTO") :=
    ClassIdentity.parse_of_referable referable (by simp [segments]) (by simp [segments, valid]) last
  rw [cut, denoted, ClassIdentity.ofPath, segments]
  rfl

/-- The reference that the command prints denotes a class of the created container when a reference
can tell the container's name. When none can, every reference is to an unknown container. -/
theorem suggestion_resolves_or_unreachable (creates : Creates directory arguments disk) :
    (init directory arguments disk).output =
      "  OK Created dtogen.config.json\n\nNext steps:\n  Run: dtogen generate --dto " ++
        arguments.container ++ ":ExampleDTO\n" ∧
    ∃ config, loadConfig (init directory arguments disk).storage directory = .ok config ∧
      (ClassIdentity.Referable arguments.container →
        ClassIdentity.parse (arguments.container ++ ":ExampleDTO") =
          .ok ⟨arguments.container, "ExampleDTO"⟩ ∧
        (config.registry directory).resolve arguments.container =
          .ok (.named arguments.container (directory.push ⟨arguments.path⟩)
            arguments.namespaceText)) ∧
      (¬ ClassIdentity.Referable arguments.container →
        ∀ raw identity, ClassIdentity.parse raw = .ok identity →
          (config.registry directory).resolve identity.container =
            .error ⟨identity.container, [arguments.container]⟩) := by
  refine ⟨creates.output_eq, starterConfig arguments, creates.loadConfig_eq, ?_, ?_⟩
  · intro referable
    refine ⟨parse_exampleReference referable, ?_⟩
    rw [resolve_starterConfig, if_pos rfl, starterContainer]
  · intro unreferable raw identity denoted
    rw [resolve_starterConfig, if_neg]
    -- The container that a reference tells has a name that can be told, and this one has not.
    intro same
    exact unreferable (same ▸ ClassIdentity.referable_of_parse denoted)

/-- A blank at the end of a name does no harm, and one in front of it does. -/
theorem suggestion_resolves_or_unreachable_spaced :
    let spaced : InitArguments := ⟨"Acme ", "src", "Acme", false⟩
    let indented := { spaced with container := " Acme" }
    let run := fun arguments => init ⟨"/work"⟩ arguments (Disk.fresh ["work"])
    let advice := "  OK Created dtogen.config.json\n\nNext steps:\n  Run: dtogen generate --dto "
    ((run spaced).output = advice ++ "Acme :ExampleDTO\n" ∧
      ClassIdentity.parse "Acme :ExampleDTO" = .ok ⟨"Acme ", "ExampleDTO"⟩ ∧
      ∃ config, loadConfig (run spaced).storage ⟨"/work"⟩ = .ok config ∧
        (config.registry ⟨"/work"⟩).resolve "Acme " = .ok (.named "Acme " ⟨"/work/src"⟩ "Acme")) ∧
    ((run indented).output = advice ++ " Acme:ExampleDTO\n" ∧
      ClassIdentity.parse " Acme:ExampleDTO" = .ok ⟨"Acme", "ExampleDTO"⟩ ∧
      ∃ config, loadConfig (run indented).storage ⟨"/work"⟩ = .ok config ∧
        (config.registry ⟨"/work"⟩).resolve "Acme" = .error ⟨"Acme", [" Acme"]⟩) := by
  intro spaced indented run advice
  constructor
  · have creates : Creates ⟨"/work"⟩ spaced (Disk.fresh ["work"]) :=
      ⟨.inl (by decide +kernel), by decide +kernel⟩
    obtain ⟨shown, config, loaded, told, _⟩ := suggestion_resolves_or_unreachable creates
    have first : ∀ c ∈ "Acme ".toList.head?, isBlank c = false := by
      rintro c ⟨⟩
      rfl
    have referable : ClassIdentity.Referable "Acme " := ⟨by decide, by decide, first⟩
    obtain ⟨denoted, known⟩ := told referable
    have place : (⟨"/work"⟩ : Path).push ⟨"src"⟩ = ⟨"/work/src"⟩ := by decide +kernel
    exact ⟨shown, denoted, config, loaded, place ▸ known⟩
  · have creates : Creates ⟨"/work"⟩ indented (Disk.fresh ["work"]) :=
      ⟨.inl (by decide +kernel), by decide +kernel⟩
    obtain ⟨shown, config, loaded, _, unreachable⟩ := suggestion_resolves_or_unreachable creates
    have unreferable : ¬ ClassIdentity.Referable " Acme" := by
      intro referable
      exact absurd (referable.first ' ' rfl) (by decide)
    have denoted : ClassIdentity.parse " Acme:ExampleDTO" = .ok ⟨"Acme", "ExampleDTO"⟩ := by
      decide +kernel
    exact ⟨shown, denoted, config, loaded, unreachable unreferable _ _ denoted⟩

/-- The command accepts a name with a colon and suggests a reference that denotes nothing. -/
theorem suggestion_refused_for_colon :
    let arguments : InitArguments := ⟨"Acme:Blog", "src/AppBundle", "AppBundle", false⟩
    let disk := Disk.fresh ["work"]
    Creates ⟨"/work"⟩ arguments disk ∧
      (init ⟨"/work"⟩ arguments disk).output =
        "  OK Created dtogen.config.json\n\nNext steps:\n" ++
          "  Run: dtogen generate --dto Acme:Blog:ExampleDTO\n" ∧
      ClassIdentity.parse "Acme:Blog:ExampleDTO" =
        .error ⟨"Acme:Blog:ExampleDTO", .invalidSegment "Blog:ExampleDTO"⟩ ∧
      ∀ raw identity, ClassIdentity.parse raw = .ok identity → identity.container ≠ "Acme:Blog" := by
  intro arguments disk
  have creates : Creates ⟨"/work"⟩ arguments disk :=
    ⟨.inl (by decide +kernel), by decide +kernel⟩
  refine ⟨creates, by decide +kernel, by decide +kernel, ?_⟩
  intro raw identity denoted same
  have referable := ClassIdentity.referable_of_parse denoted
  rw [same] at referable
  exact referable.colonless (by decide)

end DtoScaffold.Command
