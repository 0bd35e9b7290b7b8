import DtoScaffold.Proofs.Text.ByteOrder
import DtoScaffold.Registry
import Mathlib.Data.List.Induction

/-!
# Registries as maps

A registry holds its containers in strictly ascending order of their names, so what is found under
each name decides which registry it is. Main statement: after registrations in any order a registry
answers for each name with the container that was registered last under it, and for other names with
the list of all registered names.
-/
namespace DtoScaffold

open Text

/-- The container is the last one of its name among those that were registered in order. -/
def RegisteredLast (containers : List Container) (container : Container) : Prop :=
  ∃ earlier later, containers = earlier ++ container :: later ∧
    ∀ other ∈ later, other.name ≠ container.name

/-- One more registration takes the place of those under its name. -/
theorem registeredLast_concat_iff {containers : List Container} {last container : Container} :
    RegisteredLast (containers ++ [last]) container ↔
      container = last ∨ last.name ≠ container.name ∧ RegisteredLast containers container := by
  constructor
  · rintro ⟨earlier, later, split, apart⟩
    rcases List.eq_nil_or_concat later with rfl | ⟨between, final, rfl⟩
    · exact .inl (List.append_singleton_inj.mp split).2.symm
    · rw [List.concat_eq_append, ← List.cons_append, ← List.append_assoc] at split
      obtain ⟨rfl, rfl⟩ := List.append_singleton_inj.mp split
      refine .inr ⟨apart _ (by simp), earlier, between, rfl, fun other inside => ?_⟩
      exact apart other (by simp [inside])
  · rintro (rfl | ⟨other, earlier, later, rfl, apart⟩)
    · exact ⟨containers, [], rfl, by simp⟩
    · refine ⟨earlier, later ++ [last], by simp, fun another inside => ?_⟩
      rcases List.mem_append.mp inside with old | new
      · exact apart another old
      · rwa [List.mem_singleton.mp new]

theorem exists_registeredLast {containers : List Container} {container : Container}
    (registered : container ∈ containers) :
    ∃ last, last.name = container.name ∧ RegisteredLast containers last := by
  induction containers using List.reverseRecOn with
  | nil => cases registered
  | append_singleton containers last ih =>
    by_cases same : last.name = container.name
    · exact ⟨last, same, registeredLast_concat_iff.mpr (.inl rfl)⟩
    · rcases List.mem_append.mp registered with old | new
      · obtain ⟨held, named, isLast⟩ := ih old
        refine ⟨held, named, registeredLast_concat_iff.mpr (.inr ⟨?_, isLast⟩)⟩
        rwa [named]
      · rw [List.mem_singleton.mp new] at same
        exact absurd rfl same

theorem RegisteredLast.mem {containers : List Container} {container : Container}
    (isLast : RegisteredLast containers container) : container ∈ containers := by
  obtain ⟨earlier, later, rfl, _⟩ := isLast
  simp

namespace Registry

variable {containers : List Container} {container : Container} {name : String}

/-! ### The order of the names -/

/-- The containers stand in ascending order of their names, each name once. -/
def Ordered (containers : List Container) : Prop :=
  containers.Pairwise fun earlier later => earlier.name < later.name

theorem mem_of_mem_place {other : Container} (member : other ∈ place container containers) :
    other = container ∨ other ∈ containers := by
  induction containers with
  | nil => exact .inl (List.mem_singleton.mp member)
  | cons first rest ih =>
    unfold place at member
    split at member
    · exact List.mem_cons.mp member
    · split at member
      · exact (List.mem_cons.mp member).imp_right (List.mem_cons_of_mem _)
      · rcases List.mem_cons.mp member with rfl | later
        · exact .inr List.mem_cons_self
        · exact (ih later).imp_right (List.mem_cons_of_mem _)

theorem Ordered.place (ordered : Ordered containers) : Ordered (place container containers) := by
  induction containers with
  | nil => exact List.pairwise_singleton _ _
  | cons first rest ih =>
    obtain ⟨before, later⟩ := List.pairwise_cons.mp ordered
    unfold Registry.place
    split
    next less =>
      refine List.pairwise_cons.mpr ⟨fun other inside => ?_, ordered⟩
      rcases List.mem_cons.mp inside with rfl | behind
      · exact less
      · exact String.lt_trans less (before other behind)
    next notLess =>
      split
      next same =>
        have name : container.name = first.name := eq_of_beq same
        exact List.pairwise_cons.mpr ⟨fun other inside => name ▸ before other inside, later⟩
      next different =>
        -- The order is total, so a name that is neither smaller nor the same is greater.
        have greater : first.name < container.name := by
          by_contra notGreater
          have same := String.le_antisymm (String.not_lt.mp notGreater) (String.not_lt.mp notLess)
          exact different (beq_iff_eq.mpr same)
        refine List.pairwise_cons.mpr ⟨fun other inside => ?_, ih later⟩
        rcases mem_of_mem_place inside with rfl | old
        · exact greater
        · exact before other old

theorem ofList_concat (containers : List Container) (last : Container) :
    ofList (containers ++ [last]) = (ofList containers).register last := by
  simp [ofList]

theorem ordered_ofList (containers : List Container) : Ordered (ofList containers).containers := by
  induction containers using List.reverseRecOn with
  | nil => exact List.Pairwise.nil
  | append_singleton containers last ih =>
    rw [ofList_concat]
    exact Ordered.place ih

theorem Ordered.nodup (ordered : Ordered containers) : containers.Nodup := by
  apply List.Pairwise.imp _ ordered
  rintro earlier later less rfl
  exact String.lt_irrefl _ less

theorem mem_iff_find? (ordered : Ordered containers) :
    container ∈ containers ↔ containers.find? (·.name == container.name) = some container := by
  constructor
  · intro member
    obtain ⟨earlier, later, rfl⟩ := List.append_of_mem member
    -- All names before it are smaller, so none of them is found first.
    have before := (List.pairwise_append.mp ordered).2.2
    apply List.find?_eq_some_iff_append.mpr
    refine ⟨BEq.rfl, earlier, later, rfl, fun other inside => ?_⟩
    have less := before other inside container List.mem_cons_self
    rw [beq_false_of_ne fun same => String.lt_irrefl _ (same ▸ less)]
    rfl
  · exact List.mem_of_find?_eq_some

/-- Containers in order are the same when the same is found under each name. -/
theorem eq_of_find?_eq {others : List Container} (ordered : Ordered containers)
    (orderedOthers : Ordered others)
    (same : ∀ name, containers.find? (·.name == name) = others.find? (·.name == name)) :
    containers = others := by
  -- Both hold the same containers, each once, and there is only one order for them.
  have permuted : containers.Perm others := by
    apply (List.perm_ext_iff_of_nodup ordered.nodup orderedOthers.nodup).mpr
    intro container
    rw [mem_iff_find? ordered, mem_iff_find? orderedOthers, same]
  apply permuted.eq_of_pairwise _ ordered orderedOthers
  intro first second _ _ less greater
  exact absurd greater (String.lt_asymm less)

/-! ### What is found -/

/-- Under each name the container is found that was registered last. -/
theorem find?_ofList_eq_some_iff :
    (ofList containers).containers.find? (·.name == name) = some container ↔
      container.name = name ∧ RegisteredLast containers container := by
  induction containers using List.reverseRecOn with
  | nil => simp [ofList, empty, RegisteredLast]
  | append_singleton containers last ih =>
    rw [ofList_concat, find?_register, registeredLast_concat_iff]
    by_cases same : last.name = name
    · rw [if_pos same]
      constructor
      · rintro ⟨⟩
        exact ⟨same, .inl rfl⟩
      · rintro ⟨named, rfl | ⟨other, _⟩⟩
        · rfl
        · exact absurd (same.trans named.symm) other
    · rw [if_neg same, ih]
      constructor
      · rintro ⟨named, isLast⟩
        exact ⟨named, .inr ⟨named ▸ same, isLast⟩⟩
      · rintro ⟨named, rfl | ⟨_, isLast⟩⟩
        · exact absurd named same
        · exact ⟨named, isLast⟩

theorem find?_ofList_eq_none_iff :
    (ofList containers).containers.find? (·.name == name) = none ↔
      ∀ container ∈ containers, container.name ≠ name := by
  constructor
  · rintro missing container registered rfl
    obtain ⟨last, named, isLast⟩ := exists_registeredLast registered
    rw [find?_ofList_eq_some_iff.mpr ⟨named, isLast⟩] at missing
    cases missing
  · intro absent
    apply Option.eq_none_iff_forall_ne_some.mpr
    intro container found
    obtain ⟨named, isLast⟩ := find?_ofList_eq_some_iff.mp found
    exact absent container isLast.mem named

theorem mem_names_ofList_iff :
    name ∈ (ofList containers).names ↔ ∃ container ∈ containers, container.name = name := by
  rw [← not_iff_not]
  have absent : name ∉ (ofList containers).names ↔
      (ofList containers).containers.find? (·.name == name) = none := by
    simp [names]
  rw [absent, find?_ofList_eq_none_iff]
  simp

/-- The last registration under each name decides the whole registry. -/
theorem ofList_eq_iff {others : List Container} :
    ofList containers = ofList others ↔
      ∀ container, RegisteredLast containers container ↔ RegisteredLast others container := by
  have found (containers : List Container) (container : Container) :
      RegisteredLast containers container ↔
        (ofList containers).containers.find? (·.name == container.name) = some container := by
    simp [find?_ofList_eq_some_iff]
  constructor
  · intro same container
    rw [found, found, same]
  · intro same
    have containersSame : (ofList containers).containers = (ofList others).containers := by
      apply eq_of_find?_eq (ordered_ofList containers) (ordered_ofList others)
      intro name
      ext container
      simp only [find?_ofList_eq_some_iff, same]
    exact congrArg Registry.mk containersSame

/-- After registrations in any order, a name has the container that was registered last under it;
any other name is unknown, and the answer lists the names that are known. These are the registered
names in strictly ascending order of their bytes, so each is there once, and their number is the
size. Registrations that agree in the last one under each name make the same registry. -/
theorem registrations_answer_like_map (containers : List Container) :
    let registry := ofList containers
    (∀ name container, registry.resolve name = .ok container ↔
      container.name = name ∧ RegisteredLast containers container) ∧
    (∀ name error, registry.resolve name = .error error ↔
      (∀ container ∈ containers, container.name ≠ name) ∧ error = ⟨name, registry.names⟩) ∧
    (∀ name, name ∈ registry.names ↔ ∃ container ∈ containers, container.name = name) ∧
    registry.names.Pairwise (fun earlier later => utf8 earlier < utf8 later) ∧
    registry.size = registry.names.length ∧ registry.isEmpty = registry.names.isEmpty ∧
    ∀ others, ofList others = registry ↔
      ∀ container, RegisteredLast others container ↔ RegisteredLast containers container := by
  intro registry
  refine ⟨?_, ?_, ?_, ?_, ?_, ?_, ?_⟩
  · intro name container
    rw [← find?_ofList_eq_some_iff, resolve]
    split
    next other found => simp [registry, found]
    next missing => simp [registry, missing]
  · intro name error
    rw [← find?_ofList_eq_none_iff, resolve]
    split
    next container found => simp [registry, found]
    next missing => simp [registry, missing, eq_comm]
  · intro name
    exact mem_names_ofList_iff
  · apply List.pairwise_map.mpr
    exact (ordered_ofList containers).imp utf8_lt_iff.mpr
  · simp [names, size]
  · simp [names, isEmpty]
  · intro others
    exact ofList_eq_iff

end Registry

end DtoScaffold
