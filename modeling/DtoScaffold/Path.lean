import DtoScaffold.Text.Run

/-!
# Paths

A path is a text in which only `/` separates, composed without ever being normalised. Two paths
denote the same place when their components agree: repeated separators, a separator at the end and
every `.` that does not start a relative path are no components, and `..` is a component like any
other.
-/
namespace DtoScaffold

open Text

structure Path where
  text : String
  deriving DecidableEq, Repr

/-- A part of a path that counts when paths are compared. -/
inductive Component
  | root
  /-- A `.` that starts a relative path. -/
  | here
  /-- A `..`, which is not resolved. -/
  | up
  | name (text : String)
  deriving DecidableEq, Repr

namespace Component

def rank : Component → Nat
  | root => 0
  | here => 1
  | up => 2
  | name _ => 3

/-- Components are ordered by kind, names among themselves by their bytes. -/
def before : Component → Component → Bool
  | name a, name b => a < b
  | a, b => a.rank < b.rank

/-- The component of a run between separators, if it counts. -/
def ofRun? (run : Run) : Option Component :=
  if run.text == "." then if run.before.isEmpty then some here else none
  else if run.text == ".." then some up
  else some (name run.text)

/-- The order of component lists; a list comes before its extensions. -/
def listBefore : List Component → List Component → Bool
  | [], [] => false
  | [], _ :: _ => true
  | _ :: _, [] => false
  | a :: as, b :: bs => a.before b || a == b && listBefore as bs

end Component

namespace Path

def isAbsolute (path : Path) : Bool :=
  path.text.toList.head? == some '/'

def endsInSlash (path : Path) : Bool :=
  path.text.toList.getLast? == some '/'

/-- The components of the path, each with the path up to its end. -/
def steps (path : Path) : List (Component × Path) :=
  let below := (runs (· == '/') path.text).filterMap fun run =>
    (Component.ofRun? run).map (·, ⟨run.upTo⟩)
  if path.isAbsolute then (.root, ⟨"/"⟩) :: below else below

def components (path : Path) : List Component :=
  path.steps.map Prod.fst

/-- Whether two paths denote the same place. -/
def same (a b : Path) : Bool :=
  a.components == b.components

theorem same_iff {a b : Path} : a.same b = true ↔ a.components = b.components := by
  simp [same]

def before (a b : Path) : Bool :=
  Component.listBefore a.components b.components

/-- The paths above a path, the nearest first. Above a relative path lies the empty one. -/
def parents (path : Path) : List Path :=
  if path.steps.isEmpty then []
  else
    let above := path.steps.dropLast.reverse.map Prod.snd
    if path.isAbsolute then above else above ++ [⟨""⟩]

def parent? (path : Path) : Option Path :=
  path.parents.head?

/-- The path followed by another one. One separator stands between them unless there is one
already; an absolute path replaces what it is pushed to. -/
def push (base path : Path) : Path :=
  if path.isAbsolute || base.text.isEmpty then path
  else if base.endsInSlash then ⟨base.text ++ path.text⟩
  else ⟨base.text ++ "/" ++ path.text⟩

def pushAll (base : Path) (names : List String) : Path :=
  names.foldl (fun path name => path.push ⟨name⟩) base

end Path

end DtoScaffold
