import DtoScaffold.Proofs.Generation.Planning
import DtoScaffold.Proofs.Reference

/-!
# Files below their containers

Where a path leads is read off its components alone: `.` stays and `..` takes back the name before
it. The classes that references denote have identifiers for segments, so their directories and files
only lead further down. A root directory may hold any names. Main statement: the files of a class
lie below every container exactly when the root directory does not climb, that is, when each of its
`..` has a name of its own to take back.
-/
namespace DtoScaffold

open Text

namespace Component

/-- What a name denotes behind the start of a path. -/
def ofName (name : String) : Component :=
  if name = "." then .here else if name = ".." then .up else .name name

/-- Go on from a place. A `..` takes back the last name; at the root it stays, and where no name is
left it is kept. -/
def follow (reached : List Component) : Component → List Component
  | .here => reached
  | .up =>
    match reached.getLast? with
    | some .root => reached
    | some (.name _) => reached.dropLast
    | _ => reached ++ [.up]
  | component => reached ++ [component]

/-- Where components lead from a place. -/
def followAll (reached components : List Component) : List Component :=
  components.foldl follow reached

/-- The components that lead where the given ones lead, without any detour. -/
def normal (components : List Component) : List Component :=
  followAll [] components

theorem followAll_concat (reached components : List Component) (component : Component) :
    followAll reached (components ++ [component]) =
      follow (followAll reached components) component := by
  rw [followAll, List.foldl_append]
  rfl

theorem followAll_append (reached first second : List Component) :
    followAll reached (first ++ second) = followAll (followAll reached first) second :=
  List.foldl_append

theorem follow_concat_name_up (reached : List Component) (name : String) :
    follow (reached ++ [.name name]) .up = reached := by
  simp [follow]

theorem follow_concat_root_up (reached : List Component) :
    follow (reached ++ [.root]) .up = reached ++ [.root] := by
  simp [follow]

/-- A `..` is one more component unless it meets a name or the root. -/
theorem follow_up_cases (reached : List Component) :
    (∃ earlier name, reached = earlier ++ [.name name]) ∨ (∃ earlier, reached = earlier ++ [.root]) ∨
      follow reached .up = reached ++ [.up] := by
  rcases List.eq_nil_or_concat reached with rfl | ⟨earlier, last, rfl⟩
  · exact .inr (.inr rfl)
  · rw [List.concat_eq_append]
    cases last with
    | name name => exact .inl ⟨earlier, name, rfl⟩
    | root => exact .inr (.inl ⟨earlier, rfl⟩)
    | _ => exact .inr (.inr (by simp [follow]))

/-- The normal form of components leads where they lead, from every place. -/
theorem followAll_normal (reached components : List Component) :
    followAll reached (normal components) = followAll reached components := by
  induction components using List.reverseRecOn with
  | nil => rfl
  | append_singleton components component ih =>
    rw [followAll_concat, ← ih, normal, followAll_concat, ← normal]
    cases component with
    | here => rfl
    | up =>
      -- What the `..` takes back in the normal form is what it takes back behind the place.
      rcases follow_up_cases (normal components) with ⟨names, name, last⟩ | ⟨names, last⟩ | kept
      · rw [last, follow_concat_name_up, followAll_concat]
        exact (follow_concat_name_up _ name).symm
      · rw [last, follow_concat_root_up, followAll_concat]
        exact (follow_concat_root_up _).symm
      · rw [kept, followAll_concat]
    | _ => exact followAll_concat _ _ _

theorem follow_ups_up (count : Nat) :
    follow (List.replicate count .up) .up = List.replicate (count + 1) .up := by
  cases count with
  | zero => rfl
  | succ count =>
    rw [List.replicate_succ' (n := count), List.replicate_succ' (n := count + 1),
      List.replicate_succ' (n := count)]
    simp [follow]

/-- A normal form that does not start at the root goes up first and then only down. -/
theorem exists_normal_eq {components : List Component} (rootless : .root ∉ components) :
    ∃ (count : Nat) (names : List String),
      normal components = List.replicate count .up ++ names.map .name := by
  induction components using List.reverseRecOn with
  | nil => exact ⟨0, [], rfl⟩
  | append_singleton components component ih =>
    obtain ⟨count, names, shape⟩ := ih fun member => rootless (List.mem_append_left _ member)
    rw [normal, followAll_concat, ← normal, shape]
    cases component with
    | root => exact absurd (List.mem_append_right _ (List.mem_singleton_self _)) rootless
    | here => exact ⟨count, names, rfl⟩
    | name name => exact ⟨count, names ++ [name], by simp [follow]⟩
    | up =>
      -- The last name is taken back, or there is none and one more `..` is kept.
      rcases List.eq_nil_or_concat names with rfl | ⟨earlier, last, rfl⟩
      · refine ⟨count + 1, [], ?_⟩
        rw [List.map_nil, List.append_nil, List.append_nil, follow_ups_up]
      · refine ⟨count, earlier, ?_⟩
        rw [List.concat_eq_append, List.map_append, ← List.append_assoc]
        exact follow_concat_name_up _ last

theorem followAll_names (reached : List Component) (names : List String) :
    followAll reached (names.map .name) = reached ++ names.map .name := by
  induction names using List.reverseRecOn with
  | nil => simp [followAll]
  | append_singleton names name ih =>
    rw [List.map_append, List.map_singleton, followAll_concat, ih]
    simp [follow]

/-- Names whose normal form holds no `..` lead down by the names in it, from every place. -/
theorem followAll_of_not_mem_up {components : List Component} (rootless : .root ∉ components)
    (stays : .up ∉ normal components) (reached : List Component) :
    followAll reached components = reached ++ normal components := by
  obtain ⟨count, names, shape⟩ := exists_normal_eq rootless
  have level : count = 0 := by
    by_contra some
    exact stays (by simp [shape, some])
  rw [← followAll_normal, shape, level, List.replicate_zero, List.nil_append]
  exact followAll_names reached names

/-- Names whose normal form holds a `..` take back the name that they start from. -/
theorem exists_followAll_of_mem_up {components : List Component} (rootless : .root ∉ components)
    (climbs : .up ∈ normal components) :
    ∃ rest, ∀ name, followAll [.name name] components = rest := by
  obtain ⟨count, names, shape⟩ := exists_normal_eq rootless
  have higher : count ≠ 0 := by
    rintro rfl
    simp [shape] at climbs
  obtain ⟨others, rfl⟩ := Nat.exists_eq_succ_of_ne_zero higher
  refine ⟨followAll [] (List.replicate others .up ++ names.map .name), fun name => ?_⟩
  rw [← followAll_normal, shape, List.replicate_succ, List.cons_append, followAll,
    List.foldl_cons]
  rfl

theorem ofName_eq {name : String} (notHere : name ≠ ".") (notUp : name ≠ "..") :
    ofName name = .name name := by
  rw [ofName, if_neg notHere, if_neg notUp]

theorem ofName_of_isIdentifier {name : String} (valid : isIdentifier name = true) :
    ofName name = .name name := by
  apply ofName_eq
  · rintro rfl
    exact absurd valid (by decide)
  · rintro rfl
    exact absurd valid (by decide)

theorem ofName_ne_root (name : String) : ofName name ≠ .root := by
  unfold ofName
  split
  · exact nofun
  · split <;> exact nofun

/-- Only a `.` that starts a path is a component of its own, and it leads nowhere. -/
theorem followAll_ofRun? (reached : List Component) (run : Run) :
    followAll reached (ofRun? run).toList = follow reached (ofName run.text) := by
  unfold ofRun? ofName
  by_cases here : run.text = "."
  · by_cases first : run.before.isEmpty = true <;> simp [here, first, followAll, follow]
  · by_cases up : run.text = ".." <;> simp [here, up, followAll]

end Component

namespace Path

/-- The components that lead to the path without any detour. -/
def normal (path : Path) : List Component :=
  Component.normal path.components

/-- The path leads to a place below the base, whatever files there are. -/
def LiesBelow (path base : Path) : Prop :=
  base.normal <+: path.normal ∧ base.normal.length < path.normal.length

theorem normal_push (base : Path) {name : String} (isName : IsName name) :
    (base.push ⟨name⟩).normal = Component.follow base.normal (.ofName name) := by
  rw [normal, components_push_eq base isName, Component.normal, Component.followAll_append,
    Component.followAll_ofRun?, Run.text, String.ofList_toList]
  rfl

/-- Pushed names lead on from where the base leads. -/
theorem normal_pushAll (base : Path) {names : List String}
    (areNames : ∀ name ∈ names, IsName name) :
    (base.pushAll names).normal = Component.followAll base.normal (names.map .ofName) := by
  induction names generalizing base with
  | nil => rfl
  | cons name rest ih =>
    have later := ih (base.push ⟨name⟩) fun other inside =>
      areNames other (List.mem_cons_of_mem _ inside)
    rw [pushAll, List.foldl_cons, ← pushAll, later, normal_push base (areNames name (by simp))]
    rfl

end Path

/-- The names of a root directory lead out of the directory that it starts in. -/
def Climbs (rootDirectory : String) : Prop :=
  .up ∈ Component.normal ((segments rootDirectory).map .ofName)

instance (rootDirectory : String) : Decidable (Climbs rootDirectory) :=
  inferInstanceAs (Decidable (_ ∈ _))

theorem root_not_mem_map_ofName (names : List String) :
    Component.root ∉ names.map Component.ofName := by
  intro member
  obtain ⟨name, _, same⟩ := List.mem_map.mp member
  exact Component.ofName_ne_root name same

namespace ArtifactKind

variable {raw : String} {identity : ClassIdentity}

/-- The root directory alone decides whether a file of a class that a reference denotes leads up;
the directories of the class and the file lead down. -/
theorem normal_target (denoted : ClassIdentity.parse raw = .ok identity) (kind : ArtifactKind)
    (container : Container) (rootDirectory : String) :
    (kind.target container identity rootDirectory).normal =
      Component.followAll container.basePath.normal ((segments rootDirectory).map .ofName) ++
        (identity.directories ++ [kind.fileName identity.className]).map .name := by
  have areNames : ∀ name ∈ directoriesBelow identity rootDirectory ++
      [kind.fileName identity.className], IsName name := by
    intro name member
    rcases List.mem_append.mp member with directory | file
    · exact isName_of_mem_directoriesBelow directory
    · rw [List.mem_singleton.mp file]
      exact kind.isName_fileName identity
  have down : (identity.directories ++ [kind.fileName identity.className]).map Component.ofName =
      (identity.directories ++ [kind.fileName identity.className]).map Component.name := by
    apply List.map_congr_left
    intro name member
    rcases List.mem_append.mp member with directory | file
    · apply Component.ofName_of_isIdentifier
      exact ClassIdentity.isIdentifier_of_mem_segments denoted (List.dropLast_subset _ directory)
    · obtain ⟨notHere, notUp⟩ := kind.fileName_ne_dots identity.className
      rw [List.mem_singleton.mp file, Component.ofName_eq notHere notUp]
  rw [target, placeOf_eq, Path.normal_pushAll _ areNames, directoriesBelow, List.append_assoc,
    List.map_append, Component.followAll_append, down, Component.followAll_names]

/-- The files of a class that a reference denotes lie below every container exactly when the root
directory does not climb. -/
theorem lies_below_container_iff (denoted : ClassIdentity.parse raw = .ok identity)
    (rootDirectory : String) (kind : ArtifactKind) :
    (∀ container : Container,
      (kind.target container identity rootDirectory).LiesBelow container.basePath) ↔
        ¬ Climbs rootDirectory := by
  have rootless := root_not_mem_map_ofName (segments rootDirectory)
  constructor
  · intro below climbs
    -- The name of the base is taken back, so what is left is the same for two of them.
    obtain ⟨rest, left⟩ := Component.exists_followAll_of_mem_up rootless climbs
    have started (name : String) (isName : (Path.mk name).normal = [.name name]) :
        [Component.name name] <+:
          rest ++ (identity.directories ++ [kind.fileName identity.className]).map .name := by
      have lies := (below ⟨"", ⟨name⟩, ""⟩).1
      rwa [normal_target denoted, isName, left] at lies
    have first := started "a" (by decide +kernel)
    have second := started "b" (by decide +kernel)
    have same := List.prefix_of_prefix_length_le first second (Nat.le_refl _)
    exact absurd same (by decide)
  · intro stays container
    have down := Component.followAll_of_not_mem_up rootless stays container.basePath.normal
    rw [Path.LiesBelow, normal_target denoted, down, List.append_assoc]
    constructor
    · exact List.prefix_append _ _
    · simp only [List.length_append, List.map_append, List.map_singleton, List.length_singleton]
      omega

/-- A root directory that goes up and down again, and two levels of directories. -/
theorem lies_below_container_post :
    let identity : ClassIdentity := ⟨"App", "Blog/PostDTO"⟩
    ClassIdentity.parse "App:Blog\\PostDTO" = .ok identity ∧ ¬ Climbs "Model/../Dto\\V1" ∧
      (ArtifactKind.main.target (.named "App" ⟨"../srv/./app/"⟩ "App") identity
        "Model/../Dto\\V1").LiesBelow ⟨"../srv/./app/"⟩ := by
  intro identity
  have denoted : ClassIdentity.parse "App:Blog\\PostDTO" = .ok identity := by decide +kernel
  have stays : ¬ Climbs "Model/../Dto\\V1" := by decide +kernel
  exact ⟨denoted, stays, (lies_below_container_iff denoted _ .main).mpr stays _⟩

/-- A root directory that starts with `..` leads out of the container. -/
theorem leaves_container_by_root :
    let container := Container.named "App" ⟨"/srv/app"⟩ "App"
    let target := ArtifactKind.main.target container ⟨"App", "PostDTO"⟩ "../shared"
    ClassIdentity.parse "App:PostDTO" = .ok ⟨"App", "PostDTO"⟩ ∧
      target.text = "/srv/app/../shared/PostDTO.php" ∧ ¬ target.LiesBelow container.basePath := by
  intro container target
  refine ⟨by decide +kernel, by decide +kernel, ?_⟩
  rintro ⟨below, _⟩
  exact absurd below (by decide +kernel)

end ArtifactKind

end DtoScaffold
