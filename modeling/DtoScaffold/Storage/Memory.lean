import DtoScaffold.Storage.Basic

/-!
# A storage in memory

The storage for trials: it records what is written and which directories are asked for. Paths can
be declared taken, and writing can be made to fail. Paths are compared by their components.
-/
namespace DtoScaffold

structure Memory where
  /-- Paths that count as taken without having content. -/
  existing : List Path
  /-- The kind of failure of every write, if writing fails. -/
  failing : Option FailureKind
  /-- What was written, in the order of writing. -/
  written : List (Path × ByteArray)
  /-- The directories asked for, in the order of asking. -/
  createdDirectories : List Path

namespace Memory

def empty : Memory :=
  ⟨[], none, [], []⟩

def addFile (memory : Memory) (path : Path) : Memory :=
  { memory with existing := memory.existing ++ [path] }

/-- Let every write fail from now on, or succeed again. -/
def setFailing (memory : Memory) (failing : Option FailureKind) : Memory :=
  { memory with failing }

def content? (memory : Memory) (path : Path) : Option ByteArray :=
  (memory.written.find? fun entry => entry.1.same path).map Prod.snd

def taken (memory : Memory) (path : Path) : Bool :=
  memory.existing.any (·.same path) || (memory.content? path).isSome

def createDirectories (memory : Memory) (path : Path) : Except StorageError Unit × Memory :=
  (.ok (), { memory with createdDirectories := memory.createdDirectories ++ [path] })

def writeNew (memory : Memory) (path : Path) (content : ByteArray) :
    Except StorageError Unit × Memory :=
  match memory.failing with
  | some kind => (.error (.simulated kind), memory)
  | none =>
    if memory.taken path then (.error (.taken path), memory)
    else (.ok (), { memory with written := memory.written ++ [(path, content)] })

/-- What was written, in the order of the paths. -/
def listing (memory : Memory) : List (Path × ByteArray) :=
  memory.written.mergeSort fun a b => !b.1.before a.1

def isUntouched (memory : Memory) : Bool :=
  memory.written.isEmpty && memory.createdDirectories.isEmpty

instance : Storage Memory :=
  ⟨taken, createDirectories, writeNew⟩

end Memory

end DtoScaffold
