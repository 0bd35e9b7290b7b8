import DtoScaffold.Proofs.Generation.Planning
import DtoScaffold.Proofs.Storage.Layers
import DtoScaffold.Proofs.Storage.Memory

/-!
# Generation in a memory

The targets of a plan are checked before the first of them is written. Since they are different
places, writing one leaves the others free, so a memory takes either all artifacts of a request or
none of them.
-/
namespace DtoScaffold

namespace PlannedArtifact

def bytes (artifact : PlannedArtifact) : ByteArray :=
  (filePreamble ++ artifact.content).toUTF8

def entry (artifact : PlannedArtifact) : Path × ByteArray :=
  (artifact.path, artifact.bytes)

end PlannedArtifact

namespace Memory

/-- Free targets at different places are all written. -/
theorem writeArtifacts_of_free (memory : Memory) (artifacts : List PlannedArtifact)
    (working : memory.failing = none)
    (free : ∀ artifact ∈ artifacts, memory.taken artifact.path = false)
    (apart : artifacts.Pairwise fun first second => first.path.same second.path = false) :
    ∃ after, writeArtifacts memory artifacts = (.ok (), after) ∧
      after.written = memory.written ++ artifacts.map PlannedArtifact.entry ∧
      after.existing = memory.existing := by
  induction artifacts generalizing memory with
  | nil => exact ⟨memory, rfl, by simp, rfl⟩
  | cons artifact rest ih =>
    obtain ⟨different, apart⟩ := List.pairwise_cons.mp apart
    rcases memory.writeFile_cases artifact.path artifact.content with
      ⟨_, _, wrote⟩ | ⟨refused, _⟩
    · -- The room made for the first artifact takes no path, its entry only its own place.
      have later : ∀ other ∈ rest, ((memory.roomFor artifact.path).store artifact.path
          artifact.bytes).taken other.path = false := by
        intro other member
        rw [taken_store, taken_roomFor, free other (List.mem_cons_of_mem _ member),
          different other member]
        rfl
      obtain ⟨after, rest, written, existing⟩ :=
        ih ((memory.roomFor artifact.path).store artifact.path artifact.bytes) working later apart
      refine ⟨after, ?_, ?_, existing⟩
      · rw [writeArtifacts_cons, wrote]
        exact rest
      · rw [written]
        simp [store, PlannedArtifact.entry]
    · rw [working, free artifact List.mem_cons_self] at refused
      simp at refused

/-- When writing fails, nothing but room for the first artifact is made. -/
theorem writeArtifacts_of_failing (memory : Memory) (artifact : PlannedArtifact)
    (rest : List PlannedArtifact) (failing : memory.failing ≠ none) :
    ∃ error, writeArtifacts memory (artifact :: rest) =
      (.error error, memory.roomFor artifact.path) := by
  rcases memory.writeFile_cases artifact.path artifact.content with
    ⟨working, _⟩ | ⟨_, error, refused⟩
  · exact absurd working failing
  · exact ⟨error, by rw [writeArtifacts_cons, refused]⟩

theorem find?_entry_of_apart {artifacts : List PlannedArtifact} {artifact : PlannedArtifact}
    (apart : artifacts.Pairwise fun first second => first.path.same second.path = false)
    (member : artifact ∈ artifacts) :
    (artifacts.map PlannedArtifact.entry).find? (·.1.same artifact.path) =
      some artifact.entry := by
  induction artifacts with
  | nil => cases member
  | cons first rest ih =>
    obtain ⟨different, apart⟩ := List.pairwise_cons.mp apart
    rw [List.map_cons, List.find?_cons]
    rcases List.mem_cons.mp member with rfl | later
    · simp [PlannedArtifact.entry, Path.same_refl]
    · have skipped : first.entry.1.same artifact.path = false := different artifact later
      simp [skipped, ih apart later]

end Memory

/-- What a memory is that got one entry for each artifact of a plan and nothing else. -/
structure Plan.Stored (plan : Plan) (before after : Memory) : Prop where
  written : after.written = before.written ++ plan.artifacts.map PlannedArtifact.entry
  apart : plan.artifacts.Pairwise fun first second => first.path.same second.path = false
  new : ∀ artifact ∈ plan.artifacts, before.content? artifact.path = none ∧
    after.content? artifact.path = some artifact.bytes
  others : ∀ path, (∀ artifact ∈ plan.artifacts, artifact.path.same path = false) →
    after.content? path = before.content? path
  existing : after.existing = before.existing

theorem Memory.generate_of_working {resolve : Resolver} {memory : Memory} {request : Request}
    {plan : Plan} (planned : prepare resolve memory.taken request = .ok plan)
    (working : memory.failing = none) :
    ∃ after, generate resolve memory request = (.ok plan, after) ∧ plan.Stored memory after := by
  obtain ⟨container, _, rfl, free⟩ := (prepare_ok_iff _ _ _ _).mp planned
  have apart := Plan.apart_ofRequest container request
  obtain ⟨after, wrote, written, existing⟩ :=
    memory.writeArtifacts_of_free _ working free apart
  -- The entries are the last ones, so they count exactly where nothing was before.
  have holds := Memory.content?_of_written_eq written
  refine ⟨after, ?_, written, apart, ?_, ?_, existing⟩
  · rw [generate, Memory.storage_taken, planned]
    simp only [wrote]
  · intro artifact member
    have absent := (Memory.taken_eq_false_iff.mp (free artifact member)).2
    refine ⟨absent, ?_⟩
    rw [holds, absent, Memory.find?_entry_of_apart apart member]
    rfl
  · intro path different
    have unfound : ((Plan.ofRequest container request).artifacts.map
        PlannedArtifact.entry).find? (·.1.same path) = none := by
      apply List.find?_eq_none.mpr
      intro entry member
      obtain ⟨artifact, inside, rfl⟩ := List.mem_map.mp member
      have elsewhere : artifact.entry.1.same path = false := different artifact inside
      simp [elsewhere]
    rw [holds, unfound, Option.map_none, Option.or_none]

theorem Memory.generate_of_failing {resolve : Resolver} {memory : Memory} {request : Request}
    {plan : Plan} (planned : prepare resolve memory.taken request = .ok plan)
    (failing : memory.failing ≠ none) :
    ∃ error main, main ∈ plan.artifacts ∧ main.kind = .main ∧
      generate resolve memory request = (.error error, memory.roomFor main.path) := by
  obtain ⟨container, _, rfl, _⟩ := (prepare_ok_iff _ _ _ _).mp planned
  obtain ⟨others, artifacts⟩ := Plan.artifacts_ofRequest container request
  obtain ⟨error, refused⟩ := memory.writeArtifacts_of_failing
    (PlannedArtifact.ofKind container request .main) others failing
  refine ⟨error, _, by rw [artifacts]; exact List.mem_cons_self, rfl, ?_⟩
  rw [generate, Memory.storage_taken, planned]
  simp only [artifacts, refused]

/-- A request is generated as a whole or not at all: without a plan nothing changes, a working
memory gets every artifact of the plan, and a failing one gets at most the directory of the main
artifact. So a new main artifact never lacks the assembler that was asked for. -/
theorem generate_all_or_nothing (resolve : Resolver) (memory : Memory) (request : Request) :
    (∀ error, prepare resolve memory.taken request = .error error →
      generate resolve memory request = (.error error, memory)) ∧
    (∀ plan, prepare resolve memory.taken request = .ok plan → memory.failing = none →
      ∃ after, generate resolve memory request = (.ok plan, after) ∧ plan.Stored memory after) ∧
    (∀ plan, prepare resolve memory.taken request = .ok plan → memory.failing ≠ none →
      ∃ error after, generate resolve memory request = (.error error, after) ∧
        after.written = memory.written ∧ after.existing = memory.existing ∧
        (after.createdDirectories = memory.createdDirectories ∨
          ∃ main parent, main ∈ plan.artifacts ∧ main.kind = .main ∧
            main.path.parent? = some parent ∧
            after.createdDirectories = memory.createdDirectories ++ [parent])) ∧
    (∀ container, resolve request.identity.container = .ok container →
      request.options.withAssembler = true →
      let after := (generate resolve memory request).2
      let main := PlannedArtifact.ofKind container request .main
      let assembler := PlannedArtifact.ofKind container request .assembler
      memory.content? main.path = none → after.content? main.path ≠ none →
        after.content? main.path = some main.bytes ∧
          after.content? assembler.path = some assembler.bytes) := by
  have unplanned : ∀ error, prepare resolve memory.taken request = .error error →
      generate resolve memory request = (.error error, memory) := by
    intro error refused
    rw [generate, Memory.storage_taken, refused]
  refine ⟨unplanned, ?_, ?_, ?_⟩
  · intro plan planned working
    exact Memory.generate_of_working planned working
  · intro plan planned failing
    obtain ⟨error, main, member, isMain, refused⟩ := Memory.generate_of_failing planned failing
    refine ⟨error, _, refused, rfl, rfl, ?_⟩
    rcases memory.createdDirectories_roomFor main.path with same | ⟨parent, above, grown⟩
    · exact Or.inl same
    · exact Or.inr ⟨main, parent, member, isMain, above, grown⟩
  · intro container known withAssembler after main assembler absent present
    -- New content means that there was a plan and that the memory worked, so all of it was written.
    cases planned : prepare resolve memory.taken request with
    | error error =>
      have unchanged : after = memory := congrArg Prod.snd (unplanned error planned)
      exact absurd (unchanged ▸ absent) present
    | ok plan =>
      obtain ⟨other, same, rfl, _⟩ := (prepare_ok_iff _ _ _ _).mp planned
      cases known.symm.trans same
      by_cases working : memory.failing = none
      · obtain ⟨left, done, stored⟩ := Memory.generate_of_working planned working
        have last : after = left := congrArg Prod.snd done
        have member := Plan.mem_ofRequest withAssembler container
        rw [last]
        exact ⟨(stored.new main (member .main)).2, (stored.new assembler (member .assembler)).2⟩
      · obtain ⟨error, first, _, _, refused⟩ := Memory.generate_of_failing planned working
        have unchanged : after = memory.roomFor first.path := congrArg Prod.snd refused
        rw [unchanged] at present
        exact absurd absent present

end DtoScaffold
