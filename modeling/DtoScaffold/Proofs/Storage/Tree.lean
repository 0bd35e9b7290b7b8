import DtoScaffold.Proofs.Checks
import DtoScaffold.Storage.Disk

/-!
# Trees that differ little

A path leads through directories and ends at a place. So it leads to the same place in every tree
that has these directories and something at the end. A tree grows when nothing in it changes and
each new file is a target with all its bytes.
-/
namespace DtoScaffold

namespace Disk

variable {disk before middle after : Disk} {place : Location} {names : List String}

/-- The trees hold the same. -/
structure Same (before after : Disk) : Prop where
  current : after.current = before.current
  entries : ∀ location, after.entry? location = before.entry? location

/-- The trees differ at one place at most, where the second one has the given entry or none. -/
structure Sets (before after : Disk) (place : Location) (entry : Option DiskEntry) : Prop where
  current : after.current = before.current
  entries : ∀ location, after.entry? location =
    if location = place then entry else before.entry? location

theorem Same.refl (disk : Disk) : disk.Same disk :=
  ⟨rfl, fun _ => rfl⟩

namespace Sets

variable {entry other : Option DiskEntry}

theorem here (sets : before.Sets after place entry) : after.entry? place = entry := by
  rw [sets.entries, if_pos rfl]

theorem elsewhere (sets : before.Sets after place entry) {location : Location}
    (different : location ≠ place) : after.entry? location = before.entry? location := by
  rw [sets.entries, if_neg different]

theorem trans (first : before.Sets middle place entry) (second : middle.Sets after place other) :
    before.Sets after place other := by
  refine ⟨second.current.trans first.current, fun location => ?_⟩
  rw [second.entries]
  split
  · rfl
  next different => exact first.elsewhere different

theorem trans_same (sets : before.Sets middle place entry) (same : middle.Same after) :
    before.Sets after place entry :=
  ⟨same.current.trans sets.current, fun location => (same.entries location).trans
    (sets.entries location)⟩

theorem of_same (same : before.Same middle) (sets : middle.Sets after place entry) :
    before.Sets after place entry := by
  refine ⟨sets.current.trans same.current, fun location => ?_⟩
  rw [sets.entries, same.entries]

/-- A place that is what it was leaves the tree the same. -/
theorem same (sets : before.Sets after place entry) (was : before.entry? place = entry) :
    before.Same after := by
  refine ⟨sets.current, fun location => ?_⟩
  rw [sets.entries]
  split
  next here => rw [here, was]
  · rfl

end Sets

/-! ### Changing one entry -/

@[simp] theorem root_isDirectory (disk : Disk) : disk.entry? [] = some .directory := rfl

theorem lookup_of_ne_root (disk : Disk) (below : place ≠ []) :
    disk.entry? place = disk.entries.lookup place := by
  unfold entry?
  simp [below]

theorem ne_root_of_free (free : disk.entry? place = none) : place ≠ [] := by
  rintro rfl
  cases free

theorem ne_root_of_file {content : ByteArray} (held : disk.entry? place = some (.file content)) :
    place ≠ [] := by
  rintro rfl
  cases held

private theorem lookup_cons_eq (location found : Location) (entry : DiskEntry)
    (rest : List (Location × DiskEntry)) : ((found, entry) :: rest).lookup location =
      if location = found then some entry else rest.lookup location := by
  by_cases same : location = found
  · simp [same]
  · simp [List.lookup_cons, beq_false_of_ne same, same]

private theorem lookup_replaced (entries : List (Location × DiskEntry)) (place : Location)
    (entry : DiskEntry) (location : Location) :
    (entries.map fun old => if old.1 == place then (place, entry) else old).lookup location =
      if location = place then (entries.lookup location).map fun _ => entry
      else entries.lookup location := by
  induction entries with
  | nil => simp
  | cons old rest ih =>
    obtain ⟨found, _⟩ := old
    by_cases replaced : found = place
    · simp only [List.map_cons, replaced, beq_self_eq_true, if_true, lookup_cons_eq, ih]
      split <;> simp_all
    · have kept : (found == place) = false := beq_false_of_ne replaced
      simp only [List.map_cons, kept, Bool.false_eq_true, if_false, lookup_cons_eq, ih]
      split <;> simp_all

private theorem lookup_removed (entries : List (Location × DiskEntry))
    (place location : Location) :
    (entries.filter (·.1 != place)).lookup location =
      if location = place then none else entries.lookup location := by
  induction entries with
  | nil => simp
  | cons old rest ih =>
    obtain ⟨found, _⟩ := old
    by_cases removed : found = place
    · simp only [List.filter_cons, removed, bne_self_eq_false, Bool.false_eq_true, if_false, ih,
        lookup_cons_eq]
      split <;> simp_all
    · have kept : (found != place) = true := bne_iff_ne.mpr removed
      simp only [List.filter_cons, kept, if_true, lookup_cons_eq, ih]
      split <;> simp_all

/-- Other entries set a place below the root when their lookups say so. -/
private theorem sets_of_lookup {entry : Option DiskEntry} {entries : List (Location × DiskEntry)}
    (below : place ≠ []) (lookups : ∀ location, entries.lookup location =
      if location = place then entry else disk.entries.lookup location) :
    disk.Sets { disk with entries } place entry := by
  refine ⟨rfl, fun location => ?_⟩
  -- The root is no entry and always a directory.
  by_cases root : location = []
  · rw [root, root_isDirectory, if_neg (Ne.symm below), root_isDirectory]
  · rw [lookup_of_ne_root _ root, lookup_of_ne_root _ root]
    exact lookups location

theorem sets_addEntry (free : disk.entry? place = none) (entry : DiskEntry) :
    disk.Sets (disk.addEntry place entry) place (some entry) := by
  have below := ne_root_of_free free
  rw [lookup_of_ne_root _ below] at free
  apply sets_of_lookup below
  intro location
  rw [List.lookup_append, lookup_cons_eq]
  split
  next here => rw [here, free, Option.none_or]
  · exact Option.or_none

theorem sets_replaceEntry {content : ByteArray} (held : disk.entry? place = some (.file content))
    (entry : DiskEntry) : disk.Sets (disk.replaceEntry place entry) place (some entry) := by
  have below := ne_root_of_file held
  rw [lookup_of_ne_root _ below] at held
  apply sets_of_lookup below
  intro location
  rw [lookup_replaced]
  split
  next here => rw [here, held, Option.map_some]
  · rfl

theorem sets_removeEntry {content : ByteArray} (held : disk.entry? place = some (.file content)) :
    disk.Sets (disk.removeEntry place) place none :=
  sets_of_lookup (ne_root_of_file held) (lookup_removed disk.entries place)

/-! ### Walking -/

/-- Names lead from a place to another one. Every name stands in a directory. -/
inductive Leads (disk : Disk) : Location → List String → Location → Prop
  | stop (location : Location) : Leads disk location [] location
  | here {location place : Location} {name : String} {rest : List String} (dot : name = ".")
      (directory : disk.entry? location = some .directory)
      (later : Leads disk location rest place) : Leads disk location (name :: rest) place
  | up {location place : Location} {name : String} {rest : List String} (dots : name = "..")
      (directory : disk.entry? location = some .directory)
      (later : Leads disk location.dropLast rest place) : Leads disk location (name :: rest) place
  | down {location place : Location} {name : String} {rest : List String} (notDot : name ≠ ".")
      (notDots : name ≠ "..") (directory : disk.entry? location = some .directory)
      (found : disk.lookUp location name = .ok true)
      (later : Leads disk (location ++ [name]) rest place) :
      Leads disk location (name :: rest) place

theorem walk_ok_iff {location : Location} :
    disk.walk location names = .ok place ↔ disk.Leads location names place := by
  constructor
  · intro walked
    -- The numbered cases are those in which the walk does not stop with a failure.
    fun_induction walk disk location names with
    | case1 => cases walked; exact .stop _
    | case4 location name rest directory dot ih =>
      exact .here (beq_iff_eq.mp dot) directory (ih walked)
    | case5 location name rest directory _ dots ih =>
      exact .up (beq_iff_eq.mp dots) directory (ih walked)
    | case8 location name rest directory notDot notDots found ih =>
      exact .down (by simpa using notDot) (by simpa using notDots) directory found (ih walked)
    | _ => cases walked
  · intro leads
    induction leads with
    | stop => rfl
    | here dot directory _ ih => simpa [walk, directory, dot] using ih
    | up dots directory _ ih => simpa [walk, directory, dots] using ih
    | down notDot notDots directory found _ ih =>
      simpa [walk, directory, notDot, notDots, found] using ih

theorem leads_append_iff {location : Location} {first second : List String} :
    disk.Leads location (first ++ second) place ↔
      ∃ reached, disk.Leads location first reached ∧ disk.Leads reached second place := by
  constructor
  · intro leads
    -- The names in front decide where the rest starts, so the induction is on them.
    induction first generalizing location with
    | nil => exact ⟨location, .stop location, leads⟩
    | cons name rest ih =>
      cases leads with
      | here dot directory later =>
        obtain ⟨reached, early, late⟩ := ih later
        exact ⟨reached, .here dot directory early, late⟩
      | up dots directory later =>
        obtain ⟨reached, early, late⟩ := ih later
        exact ⟨reached, .up dots directory early, late⟩
      | down notDot notDots directory found later =>
        obtain ⟨reached, early, late⟩ := ih later
        exact ⟨reached, .down notDot notDots directory found early, late⟩
  · rintro ⟨reached, early, late⟩
    induction early with
    | stop => exact late
    | here dot directory _ ih => exact .here dot directory (ih late)
    | up dots directory _ ih => exact .up dots directory (ih late)
    | down notDot notDots directory found _ ih =>
      exact .down notDot notDots directory found (ih late)

theorem leads_dot_iff {location : Location} :
    disk.Leads location ["."] place ↔ location = place ∧ disk.entry? place = some .directory := by
  constructor
  · intro leads
    cases leads with
    | here _ directory later =>
      cases later
      exact ⟨rfl, directory⟩
    | up dots => exact absurd dots (by decide)
    | down notDot => exact absurd rfl notDot
  · rintro ⟨rfl, directory⟩
    exact .here rfl directory (.stop _)

theorem lookUp_ok_iff {directory : Location} {name : String} {found : Bool} :
    disk.lookUp directory name = .ok found ↔ name.utf8ByteSize ≤ longestName ∧
      (disk.entry? (directory ++ [name])).isSome = found := by
  unfold lookUp
  split
  next tooLong => simp [Nat.not_le.mpr tooLong]
  next short => simp [Nat.not_lt.mp short]

/-- One tree has the directories of another one. -/
def HasDirectoriesOf (after before : Disk) : Prop :=
  ∀ location, before.entry? location = some .directory →
    after.entry? location = some .directory

theorem HasDirectoriesOf.trans (early : middle.HasDirectoriesOf before)
    (late : after.HasDirectoriesOf middle) : after.HasDirectoriesOf before :=
  fun location directory => late location (early location directory)

/-- Setting a place where no directory is keeps the directories. -/
theorem Sets.hasDirectoriesOf {entry : Option DiskEntry} (sets : before.Sets after place entry)
    (noDirectory : before.entry? place ≠ some .directory) : after.HasDirectoriesOf before := by
  intro location directory
  rw [sets.elsewhere, directory]
  rintro rfl
  exact noDirectory directory

/-- Names lead to the same place in a tree with the same directories and something there. -/
theorem Leads.of_directories (directories : after.HasDirectoriesOf before) {location : Location}
    (leads : before.Leads location names place) (there : (after.entry? place).isSome) :
    after.Leads location names place := by
  induction leads with
  | stop location => exact .stop location
  | here dot directory _ ih => exact .here dot (directories _ directory) (ih there)
  | up dots directory _ ih => exact .up dots (directories _ directory) (ih there)
  | @down location _ name _ notDot notDots directory found later ih =>
    have present : (after.entry? (location ++ [name])).isSome := by
      -- The name stands for the end or for a directory in which the next name stands.
      cases later with
      | stop => exact there
      | here _ inner _ => simp [directories _ inner]
      | up _ inner _ => simp [directories _ inner]
      | down _ _ inner _ _ => simp [directories _ inner]
    have short := (lookUp_ok_iff.mp found).1
    exact .down notDot notDots (directories _ directory) (lookUp_ok_iff.mpr ⟨short, present⟩)
      (ih there)

/-! ### Places of paths -/

theorem locate_ok_iff {path : Path} :
    disk.locate path = .ok place ↔ checkWalkable path = .ok () ∧
      disk.Leads (disk.start path) (namesOf path ++ if path.endsInSlash then ["."] else [])
        place := by
  rw [← walk_ok_iff, locate]
  cases checkWalkable path <;> simp [bind, Except.bind]

theorem locate_of_directories (directories : after.HasDirectoriesOf before)
    (current : after.current = before.current) {path : Path}
    (located : before.locate path = .ok place) (there : (after.entry? place).isSome) :
    after.locate path = .ok place := by
  obtain ⟨walkable, leads⟩ := locate_ok_iff.mp located
  have start : after.start path = before.start path := by rw [Disk.start, Disk.start, current]
  exact locate_ok_iff.mpr ⟨walkable, start ▸ leads.of_directories directories there⟩

/-- The last name of a path stands in a directory. -/
structure EndsIn (disk : Disk) (path : Path) (directory : Location) (last : String) : Prop where
  walkable : checkWalkable path = .ok ()
  names : namesOf path = (namesOf path).dropLast ++ [last]
  notDot : last ≠ "."
  notDots : last ≠ ".."
  short : last.utf8ByteSize ≤ longestName
  leads : disk.Leads (disk.start path) (namesOf path).dropLast directory
  isDirectory : disk.entry? directory = some .directory

theorem freePlace_ok {path : Path} (free : disk.freePlace path = .ok place) :
    disk.entry? place = none ∧
      ∃ directory last, disk.EndsIn path directory last ∧ place = directory ++ [last] := by
  obtain ⟨_, walkable, free⟩ := bind_ok_iff.mp free
  split at free
  · cases free
  next last ends =>
    obtain ⟨directory, walked, free⟩ := bind_ok_iff.mp free
    obtain ⟨notDots, free⟩ := guard_bind_ok_iff.mp free
    obtain ⟨found, looked, free⟩ := bind_ok_iff.mp free
    obtain ⟨rfl, rfl⟩ := guard_ok_iff.mp free
    -- The `.` behind the other names asks for a directory and goes nowhere.
    obtain ⟨reached, leads, stays⟩ := leads_append_iff.mp (walk_ok_iff.mp walked)
    obtain ⟨rfl, isDirectory⟩ := leads_dot_iff.mp stays
    obtain ⟨short, nothing⟩ := lookUp_ok_iff.mp looked
    obtain ⟨first, split⟩ := List.getLast?_eq_some_iff.mp ends
    simp only [Bool.or_eq_false_iff, beq_eq_false_iff_ne] at notDots
    refine ⟨by simpa using nothing, reached, last, ⟨walkable, ?_, notDots.1, notDots.2, short,
      leads, isDirectory⟩, rfl⟩
    rw [split, List.dropLast_concat]

/-- A path that a file does not end in a separator denotes its last name's place. -/
theorem EndsIn.locate {path : Path} {directory : Location} {last : String}
    (endsIn : before.EndsIn path directory last) (noSlash : path.endsInSlash = false)
    (directories : after.HasDirectoriesOf before) (current : after.current = before.current)
    (there : (after.entry? (directory ++ [last])).isSome) :
    after.locate path = .ok (directory ++ [last]) := by
  have isDirectory := directories _ endsIn.isDirectory
  have found : after.lookUp directory last = .ok true := lookUp_ok_iff.mpr ⟨endsIn.short, there⟩
  have start : after.start path = before.start path := by rw [Disk.start, Disk.start, current]
  rw [locate_ok_iff, noSlash, if_neg Bool.false_ne_true, List.append_nil, start, endsIn.names]
  exact ⟨endsIn.walkable, leads_append_iff.mpr ⟨directory,
    endsIn.leads.of_directories directories (by simp [isDirectory]),
    .down endsIn.notDot endsIn.notDots isDirectory found (.stop _)⟩⟩

theorem newFilePlace_ok {path : Path} (free : disk.newFilePlace path = .ok place) :
    disk.entry? place = none ∧ path.endsInSlash = false ∧
      ∃ directory last, disk.EndsIn path directory last ∧ place = directory ++ [last] := by
  simp only [newFilePlace, bind_ok_iff, guard_ok_iff] at free
  obtain ⟨_, free, noSlash, rfl⟩ := free
  obtain ⟨nothing, endsIn⟩ := freePlace_ok free
  exact ⟨nothing, noSlash, endsIn⟩

theorem read_ok_iff {path : Path} {content : ByteArray} :
    disk.read path = .ok content ↔
      ∃ place, disk.locate path = .ok place ∧ disk.entry? place = some (.file content) := by
  unfold read
  cases disk.locate path with
  | error kind => simp
  | ok place => cases held : disk.entry? place with
    | none => simp [held]
    | some entry => cases entry <;> simp [held]

/-! ### Growing -/

/-- What is in the tree stays, and each new file is at the path of a target with all its bytes. -/
structure Grows (before after : Disk) (targets : List (Path × ByteArray)) : Prop where
  current : after.current = before.current
  kept : ∀ location entry, before.entry? location = some entry →
    after.entry? location = some entry
  added : ∀ location content, before.entry? location = none →
    after.entry? location = some (.file content) →
    ∃ path, (path, content) ∈ targets ∧ after.locate path = .ok location

namespace Grows

variable {targets first second : List (Path × ByteArray)}

theorem of_same (same : before.Same after) : before.Grows after targets where
  current := same.current
  kept location entry held := by rw [same.entries, held]
  added location content free held := by
    rw [same.entries, free] at held
    cases held

theorem refl (disk : Disk) : disk.Grows disk targets :=
  of_same (.refl disk)

theorem of_sets_directory (sets : before.Sets after place (some .directory))
    (free : before.entry? place = none) : before.Grows after targets where
  current := sets.current
  kept location entry held := by
    rw [sets.elsewhere, held]
    rintro rfl
    cases free.symm.trans held
  added location content nothing held := by
    rw [sets.entries] at held
    split at held
    · cases held
    · cases nothing.symm.trans held

theorem of_sets_file {path : Path} {content : ByteArray}
    (sets : before.Sets after place (some (.file content))) (free : before.entry? place = none)
    (located : after.locate path = .ok place) : before.Grows after [(path, content)] where
  current := sets.current
  kept location entry held := by
    rw [sets.elsewhere, held]
    rintro rfl
    cases free.symm.trans held
  added location found nothing held := by
    rw [sets.entries] at held
    split at held
    next here =>
      cases held
      exact ⟨path, List.mem_singleton_self _, here ▸ located⟩
    · cases nothing.symm.trans held

theorem mono (grows : before.Grows after first) (more : first ⊆ second) :
    before.Grows after second where
  current := grows.current
  kept := grows.kept
  added location content free held := by
    obtain ⟨path, member, located⟩ := grows.added location content free held
    exact ⟨path, more member, located⟩

theorem hasDirectoriesOf (grows : before.Grows after targets) : after.HasDirectoriesOf before :=
  fun location held => grows.kept location .directory held

/-- A file that was there is found at the same path. -/
theorem locate (grows : before.Grows after targets) {path : Path} {entry : DiskEntry}
    (located : before.locate path = .ok place) (held : before.entry? place = some entry) :
    after.locate path = .ok place :=
  locate_of_directories grows.hasDirectoriesOf grows.current located
    (by simp [grows.kept place entry held])

theorem read (grows : before.Grows after targets) {path : Path} {content : ByteArray}
    (found : before.read path = .ok content) : after.read path = .ok content := by
  obtain ⟨place, located, held⟩ := read_ok_iff.mp found
  exact read_ok_iff.mpr ⟨place, grows.locate located held, grows.kept place _ held⟩

theorem trans (early : before.Grows middle first) (late : middle.Grows after second) :
    before.Grows after (first ++ second) where
  current := late.current.trans early.current
  kept location entry held := late.kept location entry (early.kept location entry held)
  added location content free held := by
    -- A new file is new in the first part, and kept by the second one, or new in the second one.
    cases between : middle.entry? location with
    | none =>
      obtain ⟨path, member, located⟩ := late.added location content between held
      exact ⟨path, List.mem_append_right _ member, located⟩
    | some entry =>
      obtain rfl := Option.some.inj ((late.kept location entry between).symm.trans held)
      obtain ⟨path, member, located⟩ := early.added location content free between
      exact ⟨path, List.mem_append_left _ member, late.locate located between⟩

end Grows

end Disk

end DtoScaffold
