import DtoScaffold.Proofs.Storage.Layers
import DtoScaffold.Proofs.Storage.Memory

/-!
# Histories of a memory

A history is any sequence of operations on a memory, made on the memory itself, through placement
or through generation. A journal runs the same operations and notes every call of `writeNew` with
the memory just before it, also the calls inside of a generation. Main statement: what was written
stays as it was written, a write succeeds only where nothing was, and a path that was declared taken
before it was written is never written.
-/
namespace DtoScaffold

namespace Memory

/-- What a change of a memory leaves alone: contents, declared paths, and that declared paths
without content get none. -/
structure Keeps (before after : Memory) : Prop where
  content : ∀ path content, before.content? path = some content →
    after.content? path = some content
  declared : ∀ path, before.declares path = true → after.declares path = true
  refused : ∀ path, before.declares path = true → before.content? path = none →
    after.content? path = none

namespace Keeps

theorem of_written_eq {before after : Memory} (written : after.written = before.written)
    (declared : before.existing <+: after.existing) : before.Keeps after := by
  have unchanged (path : Path) : after.content? path = before.content? path := by
    simp only [content?, written]
  refine ⟨?_, ?_, ?_⟩
  · intro path content held
    rw [unchanged, held]
  · intro path declares
    obtain ⟨other, member, together⟩ := List.any_eq_true.mp declares
    exact List.any_eq_true.mpr ⟨other, declared.subset member, together⟩
  · intro path _ absent
    rw [unchanged, absent]

theorem refl (memory : Memory) : memory.Keeps memory :=
  of_written_eq rfl List.prefix_rfl

theorem trans {first second third : Memory} (earlier : first.Keeps second)
    (later : second.Keeps third) : first.Keeps third where
  content path content held := later.content path content (earlier.content path content held)
  declared path declares := later.declared path (earlier.declared path declares)
  refused path declares absent :=
    later.refused path (earlier.declared path declares) (earlier.refused path declares absent)

theorem store {memory : Memory} {path : Path} (free : memory.taken path = false)
    (content : ByteArray) : memory.Keeps (memory.store path content) := by
  refine ⟨?_, fun _ declares => declares, ?_⟩
  · intro other held present
    rw [content?_store, present, Option.some_or]
  · intro other declares absent
    -- The entry is elsewhere, since a declared path is not free.
    rw [content?_store, absent, Option.none_or]
    by_cases here : path.same other = true
    · have undeclared := (taken_eq_false_iff.mp free).1
      rw [declares_congr memory here, declares] at undeclared
      cases undeclared
    · simp [here]

end Keeps

end Memory

/-- A call of `writeNew` with the memory just before it. -/
structure WriteCall where
  before : Memory
  path : Path
  content : ByteArray
  verdict : Except StorageError Unit

def WriteCall.stored? (call : WriteCall) : Option (Path × ByteArray) :=
  match call.verdict with
  | .ok () => some (call.path, call.content)
  | .error _ => none

/-- A memory and the calls of `writeNew` made on it, in order. -/
structure Journal where
  memory : Memory
  calls : List WriteCall

namespace Journal

def start (memory : Memory) : Journal :=
  ⟨memory, []⟩

def createDirectories (journal : Journal) (path : Path) : Except StorageError Unit × Journal :=
  let (verdict, after) := journal.memory.createDirectories path
  (verdict, { journal with memory := after })

def writeNew (journal : Journal) (path : Path) (content : ByteArray) :
    Except StorageError Unit × Journal :=
  let (verdict, after) := journal.memory.writeNew path content
  (verdict, ⟨after, journal.calls ++ [⟨journal.memory, path, content, verdict⟩]⟩)

instance : Storage Journal :=
  ⟨fun journal => journal.memory.taken, createDirectories, writeNew⟩

theorem simulation_memory : Simulation Journal.memory where
  taken _ _ := rfl
  createDirectories _ _ := rfl
  writeNew _ _ _ := rfl

/-- A call got the answer of its memory and keeps what was there. When it succeeds, its path was
free before it and holds its content after it. -/
structure Sound (call : WriteCall) (after : Memory) : Prop where
  answered : call.verdict = (call.before.writeNew call.path call.content).1
  keeps : call.before.Keeps after
  success : call.verdict = .ok () →
    call.before.taken call.path = false ∧ after.content? call.path = some call.content

theorem Sound.later {call : WriteCall} {after last : Memory} (sound : Sound call after)
    (keeps : after.Keeps last) : Sound call last where
  answered := sound.answered
  keeps := sound.keeps.trans keeps
  success verdict :=
    ⟨(sound.success verdict).1, keeps.content _ _ (sound.success verdict).2⟩

/-- What a journal goes through: later calls are sound, and they alone write. -/
structure Extends (before after : Journal) : Prop where
  keeps : before.memory.Keeps after.memory
  calls : ∃ later, after.calls = before.calls ++ later ∧
    after.memory.written = before.memory.written ++ later.filterMap WriteCall.stored? ∧
    ∀ call ∈ later, Sound call after.memory

namespace Extends

theorem of_calls_eq {before after : Journal} (keeps : before.memory.Keeps after.memory)
    (written : after.memory.written = before.memory.written)
    (calls : after.calls = before.calls) : before.Extends after :=
  ⟨keeps, [], by simp [calls], by simp [written], by simp⟩

theorem refl (journal : Journal) : journal.Extends journal :=
  of_calls_eq (Memory.Keeps.refl journal.memory) rfl rfl

theorem trans {first second third : Journal} (earlier : first.Extends second)
    (later : second.Extends third) : first.Extends third := by
  obtain ⟨keepsEarlier, callsEarlier, sameEarlier, writtenEarlier, soundEarlier⟩ := earlier
  obtain ⟨keepsLater, callsLater, sameLater, writtenLater, soundLater⟩ := later
  refine ⟨keepsEarlier.trans keepsLater, callsEarlier ++ callsLater, ?_, ?_, ?_⟩
  · rw [sameLater, sameEarlier, List.append_assoc]
  · rw [writtenLater, writtenEarlier, List.filterMap_append, List.append_assoc]
  · intro call member
    rcases List.mem_append.mp member with old | new
    · exact (soundEarlier call old).later keepsLater
    · exact soundLater call new

theorem writeNew (journal : Journal) (path : Path) (content : ByteArray) :
    journal.Extends (journal.writeNew path content).2 := by
  have entry : (journal.writeNew path content).2.calls = journal.calls ++
      [⟨journal.memory, path, content, (journal.memory.writeNew path content).1⟩] := rfl
  have memory : (journal.writeNew path content).2.memory =
      (journal.memory.writeNew path content).2 := rfl
  -- The call is noted whether it succeeds or not; only a success adds an entry.
  rcases journal.memory.writeNew_cases path content with
    ⟨_, free, stored⟩ | ⟨_, error, refused⟩
  · have keeps := Memory.Keeps.store free content
    have absent := (Memory.taken_eq_false_iff.mp free).2
    rw [stored] at entry memory
    refine ⟨memory ▸ keeps, _, entry, by rw [memory]; rfl, ?_⟩
    intro call member
    rw [List.mem_singleton.mp member, memory]
    refine ⟨by simp [stored], keeps, fun _ => ⟨free, ?_⟩⟩
    rw [Memory.content?_store, absent, Path.same_refl]
    rfl
  · rw [refused] at entry memory
    refine ⟨memory ▸ Memory.Keeps.refl _, _, entry, by simp [memory, WriteCall.stored?], ?_⟩
    intro call member
    rw [List.mem_singleton.mp member, memory]
    exact ⟨by simp [refused], Memory.Keeps.refl _, fun success => nomatch success⟩

end Extends

theorem evolution_extends : Evolution Extends where
  refl := Extends.refl
  trans := Extends.trans
  createDirectories _ _ :=
    Extends.of_calls_eq (Memory.Keeps.of_written_eq rfl List.prefix_rfl) rfl rfl
  writeNew := Extends.writeNew

end Journal

/-- The storages of a history: a memory, alone or with more beside it. -/
class Historied (σ : Type) extends Storage σ where
  /-- Change the memory by other means than the operations of a storage. -/
  adjust : (Memory → Memory) → σ → σ

instance : Historied Memory :=
  ⟨fun change memory => change memory⟩

instance : Historied Journal :=
  ⟨fun change journal => { journal with memory := change journal.memory }⟩

inductive MemoryOperation
  | addFile (path : Path)
  | setFailing (failing : Option FailureKind)
  | createDirectories (path : Path)
  | writeNew (path : Path) (content : ByteArray)
  | writeFile (path : Path) (text : String)
  | writeArtifact (artifact : PlannedArtifact)
  | prepare (resolve : Resolver) (request : Request)
  | generate (resolve : Resolver) (request : Request)

namespace MemoryOperation

variable {σ : Type} [Historied σ]

/-- The state after an operation. Planning only asks which paths are taken. -/
def perform (operation : MemoryOperation) (state : σ) : σ :=
  match operation with
  | addFile path => Historied.adjust (·.addFile path) state
  | setFailing failing => Historied.adjust (·.setFailing failing) state
  | createDirectories path => (Storage.createDirectories state path).2
  | writeNew path content => (Storage.writeNew state path content).2
  | writeFile path text => (DtoScaffold.writeFile state path text).2
  | writeArtifact artifact => (DtoScaffold.writeArtifact state artifact).2
  | prepare _ _ => state
  | generate resolve request => (DtoScaffold.generate resolve state request).2

def performAll (operations : List MemoryOperation) (state : σ) : σ :=
  operations.foldl (fun state operation => operation.perform state) state

theorem performAll_append (earlier later : List MemoryOperation) (state : σ) :
    performAll (earlier ++ later) state = performAll later (performAll earlier state) :=
  List.foldl_append

theorem memory_perform (operation : MemoryOperation) (journal : Journal) :
    (operation.perform journal).memory = operation.perform journal.memory := by
  have simulation := Journal.simulation_memory
  -- Only the operations through a layer need the simulation.
  cases operation with
  | writeFile path text =>
    exact (congrArg Prod.snd (simulation.writeFile journal path text)).symm
  | writeArtifact artifact =>
    exact (congrArg Prod.snd (simulation.writeFile journal artifact.path artifact.content)).symm
  | generate resolve request =>
    exact (congrArg Prod.snd (simulation.generate resolve journal request)).symm
  | _ => rfl

/-- A journal goes through the history of its memory. -/
theorem memory_performAll (operations : List MemoryOperation) (journal : Journal) :
    (performAll operations journal).memory = performAll operations journal.memory := by
  induction operations generalizing journal with
  | nil => rfl
  | cons operation rest ih =>
    rw [performAll, List.foldl_cons, ← performAll, ih, memory_perform]
    rfl

theorem extends_perform (operation : MemoryOperation) (journal : Journal) :
    journal.Extends (operation.perform journal) := by
  have evolution := Journal.evolution_extends
  cases operation with
  | addFile path =>
    exact .of_calls_eq (.of_written_eq rfl (List.prefix_append _ _)) rfl rfl
  | setFailing failing =>
    exact .of_calls_eq (.of_written_eq rfl List.prefix_rfl) rfl rfl
  | createDirectories path => exact evolution.createDirectories journal path
  | writeNew path content => exact evolution.writeNew journal path content
  | writeFile path text => exact evolution.writeFile journal path text
  | writeArtifact artifact => exact evolution.writeFile journal artifact.path artifact.content
  | prepare resolve request => exact evolution.refl journal
  | generate resolve request => exact evolution.generate resolve journal request

theorem extends_performAll (operations : List MemoryOperation) (journal : Journal) :
    journal.Extends (performAll operations journal) := by
  induction operations generalizing journal with
  | nil => exact Journal.Extends.refl journal
  | cons operation rest ih => exact (extends_perform operation journal).trans (ih _)

theorem keeps_performAll (operations : List MemoryOperation) (memory : Memory) :
    memory.Keeps (performAll operations memory) := by
  have grown := (extends_performAll operations (Journal.start memory)).keeps
  rwa [memory_performAll] at grown

end MemoryOperation

open MemoryOperation

/-- What a history has written stays. Its calls alone write, each of them only where nothing was,
and no path that was declared taken before it was written gets content. Places count, not the texts
of paths. -/
theorem history_never_overwrites (initial : Memory) (operations : List MemoryOperation) :
    let journal := performAll operations (Journal.start initial)
    let final := performAll operations initial
    (∀ earlier later, operations = earlier ++ later → ∀ path content,
      (performAll earlier initial).content? path = some content →
        final.content? path = some content) ∧
    (journal.memory = final ∧
      final.written = initial.written ++ journal.calls.filterMap WriteCall.stored?) ∧
    (∀ call ∈ journal.calls, call.verdict = (call.before.writeNew call.path call.content).1 ∧
      (∀ path content, call.before.content? path = some content →
        final.content? path = some content) ∧
      (call.verdict = .ok () → call.before.taken call.path = false ∧
        final.content? call.path = some call.content)) ∧
    (∀ path text, (writeFile final path text).1 = .ok () → final.taken path = false) ∧
    (∀ earlier path later, operations = earlier ++ .addFile path :: later → ∀ other,
      path.same other = true → (performAll earlier initial).content? other = none →
        final.content? other = none) ∧
    (∀ path other, path.same other = true →
      final.content? path = final.content? other ∧ final.taken path = final.taken other) ∧
    (∀ start rest, (Path.mk (start ++ "//" ++ rest)).same ⟨start ++ "/" ++ rest⟩ = true ∧
      (Path.mk (start ++ "/./" ++ rest)).same ⟨start ++ "/" ++ rest⟩ = true) := by
  intro journal final
  have memory : journal.memory = final := memory_performAll operations (Journal.start initial)
  obtain ⟨_, calls, sameCalls, written, sound⟩ :=
    extends_performAll operations (Journal.start initial)
  change journal.calls = [] ++ calls at sameCalls
  rw [List.nil_append] at sameCalls
  -- What a part of the history left is kept by the rest of it.
  have through (earlier later : List MemoryOperation) (split : operations = earlier ++ later) :
      (performAll earlier initial).Keeps final := by
    have kept := keeps_performAll later (performAll earlier initial)
    rwa [← performAll_append, ← split] at kept
  refine ⟨?_, ⟨memory, ?_⟩, ?_, ?_, ?_, ?_, ?_⟩
  · intro earlier later split
    exact (through earlier later split).content
  · rw [← memory, sameCalls]
    exact written
  · intro call member
    obtain ⟨answered, keeps, success⟩ := memory ▸ sound call (sameCalls ▸ member)
    exact ⟨answered, keeps.content, success⟩
  · intro path text placed
    rcases final.writeFile_cases path text with ⟨_, free, _⟩ | ⟨_, error, refused⟩
    · exact free
    · rw [refused] at placed
      cases placed
  · intro earlier path later split other here absent
    -- The declaration itself writes nothing, so the path is refused from there on.
    have kept := through (earlier ++ [.addFile path]) later (by simp [split])
    rw [performAll_append] at kept
    apply kept.refused other
    · exact List.any_eq_true.mpr ⟨path, by simp [performAll, perform, Historied.adjust,
        Memory.addFile], here⟩
    · exact absent
  · intro path other here
    exact ⟨final.content?_congr here, final.taken_congr here⟩
  · intro start rest
    exact ⟨Path.same_doubled_separator start rest, Path.same_dotted_separator start rest⟩

end DtoScaffold
