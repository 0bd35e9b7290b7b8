import DtoScaffold.Path
import DtoScaffold.Proofs.Text.Runs

/-!
# Paths made of names

A path that grows by names is its base, a separator where one is missing, and the names with `/`
between them. Each name other than `.` and `..` adds one component at the end, so both the text and
the place of such a path tell its names.
-/
namespace DtoScaffold

open Text

/-- A text that a path takes as one name. -/
abbrev IsName (text : String) : Prop :=
  Solid (· == '/') text

namespace Path

theorem same_refl (path : Path) : path.same path = true :=
  same_iff.mpr rfl

/-- Paths to one place agree on every other path. -/
theorem same_congr {first second : Path} (together : first.same second = true) (other : Path) :
    other.same first = other.same second := by
  simp only [same, same_iff.mp together]

/-- What stands before the first name that is pushed to the path. -/
def lead (base : Path) : String :=
  if base.text.isEmpty || base.endsInSlash then base.text else base.text ++ "/"

theorem isAbsolute_name {name : String} (isName : IsName name) :
    (Path.mk name).isAbsolute = false := by
  obtain ⟨nonempty, gapless⟩ := isName
  cases chars : name.toList with
  | nil => exact absurd chars nonempty
  | cons c rest =>
    have first := gapless c (by simp [chars])
    simpa [isAbsolute, chars] using first

theorem endsInSlash_append_name {name : String} (isName : IsName name) (text : String) :
    (Path.mk (text ++ name)).endsInSlash = false := by
  obtain ⟨nonempty, gapless⟩ := isName
  have last := gapless _ (List.getLast_mem nonempty)
  have found : (text ++ name).toList.getLast? = some (name.toList.getLast nonempty) := by
    rw [String.toList_append, List.getLast?_append, List.getLast?_eq_some_getLast nonempty]
    rfl
  rw [endsInSlash, found]
  simpa using last

theorem text_push (base : Path) {name : String} (isName : IsName name) :
    (base.push ⟨name⟩).text = base.lead ++ name := by
  have relative := isAbsolute_name isName
  by_cases empty : base.text.isEmpty = true
  · have blank : base.text = "" := String.isEmpty_iff.mp empty
    simp [push, lead, blank]
  · by_cases ended : base.endsInSlash = true <;> simp [push, lead, relative, empty, ended]

theorem lead_push (base : Path) {name : String} (isName : IsName name) :
    (base.push ⟨name⟩).lead = base.lead ++ name ++ "/" := by
  have text := text_push base isName
  have filled : (base.push ⟨name⟩).text.isEmpty = false := by
    rw [text]
    have nonempty : name ≠ "" := by simpa using isName.nonempty
    simp [nonempty]
  have open_ : (base.push ⟨name⟩).endsInSlash = false := by
    have last := endsInSlash_append_name isName base.lead
    rwa [← text] at last
  calc (base.push ⟨name⟩).lead = (base.push ⟨name⟩).text ++ "/" := by simp [lead, filled, open_]
    _ = base.lead ++ name ++ "/" := by rw [text]

theorem text_pushAll (base : Path) {names : List String} (nonempty : names ≠ [])
    (areNames : ∀ name ∈ names, IsName name) :
    (base.pushAll names).text = base.lead ++ "/".intercalate names := by
  -- Each name extends the base, so the names behind it are pushed to another one.
  induction names generalizing base with
  | nil => exact absurd rfl nonempty
  | cons name rest ih =>
    have first := areNames name (by simp)
    cases rest with
    | nil => simp [pushAll, text_push base first]
    | cons next rest =>
      have later := ih (base.push ⟨name⟩) (by simp)
        (fun other inside => areNames other (List.mem_cons_of_mem _ inside))
      rw [pushAll, List.foldl_cons, ← pushAll, later, lead_push base first]
      simp [String.append_assoc]

/-- The texts of paths that grow from one base are equal only when their names are. -/
theorem text_pushAll_inj (base : Path) {left right : List String}
    (nonemptyLeft : left ≠ []) (nonemptyRight : right ≠ [])
    (areLeft : ∀ name ∈ left, IsName name) (areRight : ∀ name ∈ right, IsName name) :
    (base.pushAll left).text = (base.pushAll right).text ↔ left = right := by
  rw [text_pushAll base nonemptyLeft areLeft, text_pushAll base nonemptyRight areRight,
    String.append_right_inj]
  exact intercalate_inj '/' (by simp) rfl areLeft areRight

/-- The components of a path are its root, if it has one, and then what its runs denote. -/
theorem components_eq (path : Path) :
    path.components = (if path.isAbsolute then [.root] else []) ++
      (runs (· == '/') path.text).filterMap Component.ofRun? := by
  have below (found : List Run) :
      (found.filterMap fun run => (Component.ofRun? run).map (·, Path.mk run.upTo)).map Prod.fst =
        found.filterMap Component.ofRun? := by
    rw [List.map_filterMap]
    congr 1
    funext run
    cases Component.ofRun? run <;> rfl
  by_cases absolute : path.isAbsolute = true <;> simp [components, steps, absolute, below]

/-- Behind the start of a path, a run denotes the same component wherever it stands. -/
private theorem filterMap_ofRun?_runsAfter {isGap : Char → Bool} (before other cs : List Char)
    (behind : before ≠ []) (behindOther : other ≠ []) :
    (runsAfter isGap before cs).filterMap Component.ofRun? =
      (runsAfter isGap other cs).filterMap Component.ofRun? := by
  fun_induction runsAfter isGap before cs generalizing other
  · simp [runsAfter]
  next before c rest gap ih =>
    have later := ih (other ++ [c]) (by simp) (by simp)
    simpa [runsAfter, gap] using later
  next before c rest solid chars ih =>
    have first : Component.ofRun? ⟨before, chars⟩ = Component.ofRun? ⟨other, chars⟩ := by
      simp [Component.ofRun?, Run.text, behind, behindOther]
    have later := ih (other ++ chars) (by simp [chars]) (by simp [chars])
    rw [runsAfter, if_neg solid, List.filterMap_cons, List.filterMap_cons, first, later]

private theorem components_divided (start rest : String) :
    (Path.mk (start ++ "/" ++ rest)).components =
      (Path.mk (start ++ "/")).components ++
        (runsAfter (· == '/') ['/'] rest.toList).filterMap Component.ofRun? := by
  have absolute : (Path.mk (start ++ "/" ++ rest)).isAbsolute =
      (Path.mk (start ++ "/")).isAbsolute := by
    cases start.toList <;> simp_all [isAbsolute]
  have divided : runs (· == '/') (start ++ "/" ++ rest) = runs (· == '/') (start ++ "/") ++
      runsAfter (· == '/') (start.toList ++ ['/']) rest.toList := by
    have cut : (start ++ "/" ++ rest).toList = start.toList ++ '/' :: rest.toList := by simp
    have ended : (start ++ "/").toList = start.toList ++ ['/'] := by simp
    rw [runs, runs, cut, ended, runsAfter_append_gap (by rfl), runsAfter_append_last (by rfl)]
    rfl
  rw [components_eq, components_eq, absolute, divided, List.filterMap_append, List.append_assoc,
    filterMap_ofRun?_runsAfter (start.toList ++ ['/']) ['/'] _ (by simp) (by simp)]

/-- A second separator is no component. -/
theorem same_doubled_separator (start rest : String) :
    (Path.mk (start ++ "//" ++ rest)).same ⟨start ++ "/" ++ rest⟩ = true := by
  have doubled : start ++ "//" ++ rest = start ++ "/" ++ ("/" ++ rest) := by
    simp [String.append_assoc, ← String.toList_inj]
  have behind : (runsAfter (· == '/') ['/'] ("/" ++ rest).toList).filterMap Component.ofRun? =
      (runsAfter (· == '/') ['/'] rest.toList).filterMap Component.ofRun? := by
    have step : ("/" ++ rest).toList = '/' :: rest.toList := by simp
    rw [step, runsAfter, if_pos (by rfl)]
    exact filterMap_ofRun?_runsAfter _ _ _ (by simp) (by simp)
  rw [same_iff, doubled, components_divided, components_divided, behind]

/-- A `.` between separators is no component. -/
theorem same_dotted_separator (start rest : String) :
    (Path.mk (start ++ "/./" ++ rest)).same ⟨start ++ "/" ++ rest⟩ = true := by
  have dotted : start ++ "/./" ++ rest = start ++ "/" ++ ("./" ++ rest) := by
    simp [String.append_assoc, ← String.toList_inj]
  have behind : (runsAfter (· == '/') ['/'] ("./" ++ rest).toList).filterMap Component.ofRun? =
      (runsAfter (· == '/') ['/'] rest.toList).filterMap Component.ofRun? := by
    have step : ("./" ++ rest).toList = ['.'] ++ '/' :: rest.toList := by simp
    have noComponent : Component.ofRun? ⟨['/'], ['.']⟩ = none := by rfl
    rw [step, runsAfter_append_gap (by rfl), runsAfter_of_gapless _ (by simp) (by simp),
      List.filterMap_append]
    simp only [List.filterMap_cons, noComponent, List.filterMap_nil, List.nil_append]
    exact filterMap_ofRun?_runsAfter _ _ _ (by simp) (by simp)
  rw [same_iff, dotted, components_divided, components_divided, behind]

private theorem lead_divided (base : Path) :
    base.lead.toList = [] ∨
      ∃ start gap, (gap == '/') = true ∧ base.lead.toList = start ++ [gap] := by
  by_cases empty : base.text.isEmpty = true
  · left
    have blank : base.text = "" := String.isEmpty_iff.mp empty
    simp [lead, blank]
  · right
    by_cases ended : base.endsInSlash = true
    · obtain ⟨start, last⟩ := List.getLast?_eq_some_iff.mp (beq_iff_eq.mp ended)
      exact ⟨start, '/', rfl, by simp [lead, ended, last]⟩
    · exact ⟨base.text.toList, '/', rfl, by simp [lead, empty, ended]⟩

private theorem runs_lead (base : Path) :
    runs (· == '/') base.lead = runs (· == '/') base.text := by
  by_cases whole : (base.text.isEmpty || base.endsInSlash) = true
  · simp only [lead, whole, if_true]
  · simp only [runs, lead, whole, Bool.false_eq_true, if_false, String.toList_append]
    exact runsAfter_append_last (by rfl) [] base.text.toList

private theorem isAbsolute_push (base : Path) {name : String} (isName : IsName name) :
    (base.push ⟨name⟩).isAbsolute = base.isAbsolute := by
  by_cases empty : base.text.isEmpty = true
  · have blank : base = ⟨""⟩ := by
      cases base
      simpa using empty
    have alone : base.push ⟨name⟩ = ⟨name⟩ := by simp [push, blank]
    rw [alone, isAbsolute_name isName, blank]
    rfl
  · have nonempty : base.text.toList ≠ [] := by simpa using empty
    obtain ⟨first, rest, chars⟩ := List.exists_cons_of_ne_nil nonempty
    have leading : base.lead.toList.head? = some first := by
      by_cases ended : base.endsInSlash = true <;> simp [lead, empty, ended, chars]
    simp [isAbsolute, text_push base isName, List.head?_append, leading, chars]

/-- A name that is pushed is one more run. -/
theorem runs_push (base : Path) {name : String} (isName : IsName name) :
    runs (· == '/') (base.push ⟨name⟩).text =
      runs (· == '/') base.text ++ [⟨base.lead.toList, name.toList⟩] := by
  -- The name is a run of its own because a separator, or nothing, stands before it.
  rw [text_push base isName, ← runs_lead base, runs, runs, String.toList_append,
    runsAfter_append_gapless [] (lead_divided base) isName.nonempty isName.gapless]
  rfl

/-- A name that is pushed adds what it denotes behind the base, if it counts there. -/
theorem components_push_eq (base : Path) {name : String} (isName : IsName name) :
    (base.push ⟨name⟩).components =
      base.components ++ (Component.ofRun? ⟨base.lead.toList, name.toList⟩).toList := by
  rw [components_eq, components_eq, isAbsolute_push base isName, runs_push base isName,
    List.filterMap_append, List.append_assoc]
  cases denotes : Component.ofRun? ⟨base.lead.toList, name.toList⟩ <;> simp [denotes]

/-- A name that is pushed adds one component at the end. -/
theorem components_push (base : Path) {name : String} (isName : IsName name)
    (notHere : name ≠ ".") (notUp : name ≠ "..") :
    (base.push ⟨name⟩).components = base.components ++ [.name name] := by
  have denotes : Component.ofRun? ⟨base.lead.toList, name.toList⟩ = some (.name name) := by
    simp [Component.ofRun?, Run.text, notHere, notUp]
  rw [components_push_eq base isName, denotes]
  rfl

end Path

end DtoScaffold
