import DtoScaffold.Placement
import DtoScaffold.Proofs.Path
import DtoScaffold.Storage.Memory

/-!
# Contents and places of a memory

What a memory answers for a path depends on the path's components only. A successful write adds one
entry at a place that was free, so it changes the answers for that place and for no other.
-/
namespace DtoScaffold

namespace Memory

def declares (memory : Memory) (path : Path) : Bool :=
  memory.existing.any (·.same path)

/-- The memory with one more entry. -/
def store (memory : Memory) (path : Path) (content : ByteArray) : Memory :=
  { memory with written := memory.written ++ [(path, content)] }

theorem taken_eq (memory : Memory) (path : Path) :
    memory.taken path = (memory.declares path || (memory.content? path).isSome) :=
  rfl

theorem taken_eq_false_iff {memory : Memory} {path : Path} :
    memory.taken path = false ↔ memory.declares path = false ∧ memory.content? path = none := by
  rw [taken_eq, Bool.or_eq_false_iff, Option.isSome_eq_false_iff, Option.isNone_iff_eq_none]

theorem content?_congr (memory : Memory) {first second : Path}
    (together : first.same second = true) : memory.content? first = memory.content? second := by
  simp only [content?, Path.same_congr together]

theorem declares_congr (memory : Memory) {first second : Path}
    (together : first.same second = true) : memory.declares first = memory.declares second := by
  simp only [declares, Path.same_congr together]

theorem taken_congr (memory : Memory) {first second : Path} (together : first.same second = true) :
    memory.taken first = memory.taken second := by
  rw [taken_eq, taken_eq, declares_congr memory together, content?_congr memory together]

/-- Entries added at the end count for paths without an earlier one. -/
theorem content?_of_written_eq {before after : Memory} {added : List (Path × ByteArray)}
    (written : after.written = before.written ++ added) (path : Path) :
    after.content? path =
      (before.content? path).or ((added.find? fun entry => entry.1.same path).map Prod.snd) := by
  rw [content?, content?, written, List.find?_append]
  cases before.written.find? fun entry => entry.1.same path <;> rfl

theorem content?_store (memory : Memory) (path : Path) (content : ByteArray) (other : Path) :
    (memory.store path content).content? other =
      (memory.content? other).or (if path.same other then some content else none) := by
  have written : (memory.store path content).written = memory.written ++ [(path, content)] := rfl
  rw [content?_of_written_eq written]
  by_cases here : path.same other = true <;> simp [here]

theorem taken_store (memory : Memory) (path : Path) (content : ByteArray) (other : Path) :
    (memory.store path content).taken other = (memory.taken other || path.same other) := by
  rw [taken_eq, taken_eq, content?_store]
  cases memory.content? other <;> by_cases here : path.same other = true <;>
    simp [here, declares, store]

/-- A working memory stores what is written to a free path; otherwise it stays as it was. -/
theorem writeNew_cases (memory : Memory) (path : Path) (content : ByteArray) :
    (memory.failing = none ∧ memory.taken path = false ∧
      memory.writeNew path content = (.ok (), memory.store path content)) ∨
    ((memory.failing ≠ none ∨ memory.taken path = true) ∧
      ∃ error, memory.writeNew path content = (.error error, memory)) := by
  cases failing : memory.failing with
  | some kind => exact Or.inr ⟨by simp, .simulated kind, by simp [writeNew, failing]⟩
  | none =>
    cases used : memory.taken path with
    | false => exact Or.inl ⟨rfl, rfl, by simp [writeNew, failing, used, store]⟩
    | true => exact Or.inr ⟨by simp, .taken path, by simp [writeNew, failing, used]⟩

/-- The directory that has to be asked for before a path can be written. -/
def missingParent? (memory : Memory) (path : Path) : Option Path :=
  path.parent?.filter fun parent => !parent.text.isEmpty && !memory.taken parent

/-- The memory after its missing directory was asked for. -/
def roomFor (memory : Memory) (path : Path) : Memory :=
  { memory with
    createdDirectories := memory.createdDirectories ++ (memory.missingParent? path).toList }

@[simp] theorem written_roomFor (memory : Memory) (path : Path) :
    (memory.roomFor path).written = memory.written := rfl

@[simp] theorem taken_roomFor (memory : Memory) (path other : Path) :
    (memory.roomFor path).taken other = memory.taken other := rfl

theorem createdDirectories_roomFor (memory : Memory) (path : Path) :
    (memory.roomFor path).createdDirectories = memory.createdDirectories ∨
      ∃ parent, path.parent? = some parent ∧
        (memory.roomFor path).createdDirectories = memory.createdDirectories ++ [parent] := by
  unfold roomFor
  cases missing : memory.missingParent? path with
  | none => exact Or.inl (by simp)
  | some parent =>
    obtain ⟨above, _⟩ := Option.filter_eq_some_iff.mp missing
    exact Or.inr ⟨parent, above, rfl⟩

@[simp] theorem storage_taken (memory : Memory) : Storage.taken memory = memory.taken := rfl

@[simp] theorem storage_createDirectories (memory : Memory) (path : Path) :
    Storage.createDirectories memory path = memory.createDirectories path := rfl

@[simp] theorem storage_writeNew (memory : Memory) (path : Path) (content : ByteArray) :
    Storage.writeNew memory path content = memory.writeNew path content := rfl

theorem makeRoom_eq (memory : Memory) (path : Path) :
    makeRoom memory path = (.ok (), memory.roomFor path) := by
  unfold makeRoom roomFor missingParent?
  cases path.parent? with
  | none => simp
  | some parent =>
    cases named : parent.text.isEmpty <;> cases there : memory.taken parent <;>
      simp [createDirectories, Option.filter, named, there]

/-- Placing a text makes room for it, and then stores it or leaves the memory with this room. -/
theorem writeFile_cases (memory : Memory) (path : Path) (text : String) :
    (memory.failing = none ∧ memory.taken path = false ∧ writeFile memory path text =
      (.ok (), (memory.roomFor path).store path (withPreamble text).toUTF8)) ∨
    ((memory.failing ≠ none ∨ memory.taken path = true) ∧
      ∃ error, writeFile memory path text = (.error error, memory.roomFor path)) := by
  unfold writeFile
  simp only [makeRoom_eq, storage_writeNew]
  -- The room changes neither what is taken nor whether writing fails.
  rcases (memory.roomFor path).writeNew_cases path (withPreamble text).toUTF8 with
    ⟨working, free, stored⟩ | ⟨reason, error, refused⟩
  · exact Or.inl ⟨working, free, by rw [stored]⟩
  · exact Or.inr ⟨reason, _, by rw [refused]⟩

end Memory

end DtoScaffold
