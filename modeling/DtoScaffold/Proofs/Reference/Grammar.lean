import DtoScaffold.Proofs.Reference
import DtoScaffold.Proofs.Text.Pieces

/-!
# The grammar of references

A reference is a container's name and a path around the first colon, or there is a first rule of the
grammar that it violates. Main statement: a text without the blanks around it is a reference exactly
when it is read, and the class then has the pieces of the path as its segments. Otherwise the first
rule that it violates is reported with the text.
-/
namespace DtoScaffold.ClassIdentity

open Text

/-- The text is a name without a colon, a colon, and a path with identifiers between its slashes. -/
structure Refers (text container path : String) : Prop where
  whole : text = container ++ ":" ++ path
  colonless : ':' ∉ container.toList
  named : container ≠ ""
  placed : pieces isSlash path ≠ []
  identifiers : ∀ piece ∈ pieces isSlash path, isIdentifier piece = true

/-- The first rule of the grammar that a text violates; each rule is about texts that keep the rules
before it. Of several invalid segments the leftmost counts. -/
inductive Breaks (text : String) : ReferenceFault → Prop
  | missingColon (colonless : ':' ∉ text.toList) : Breaks text .missingColon
  | missingContainer (path : String) (whole : text = ":" ++ path) : Breaks text .missingContainer
  | missingClass (container path : String) (whole : text = container ++ ":" ++ path)
      (colonless : ':' ∉ container.toList) (named : container ≠ "")
      (unplaced : pieces isSlash path = []) : Breaks text .missingClass
  | invalidSegment (container path segment : String) (earlier later : List String)
      (whole : text = container ++ ":" ++ path) (colonless : ':' ∉ container.toList)
      (named : container ≠ "") (split : pieces isSlash path = earlier ++ segment :: later)
      (identifiers : ∀ piece ∈ earlier, isIdentifier piece = true)
      (invalid : isIdentifier segment = false) : Breaks text (.invalidSegment segment)

theorem ofReference_ok_iff_refers {reference : String} {identity : ClassIdentity} :
    ofReference reference = .ok identity ↔
      ∃ container path, Refers reference container path ∧ identity = ofPath container path := by
  rw [ofReference_ok_iff]
  constructor
  · rintro ⟨container, path, cut, named, placed, valid, same⟩
    obtain ⟨colonless, whole⟩ := cutAt?_eq_some_iff.mp cut
    rw [segments_eq_pieces] at placed valid
    exact ⟨container, path, ⟨whole, colonless, named, placed, valid⟩, same⟩
  · rintro ⟨container, path, ⟨whole, colonless, named, placed, valid⟩, same⟩
    rw [← segments_eq_pieces] at placed valid
    exact ⟨container, path, cutAt?_eq_some_iff.mpr ⟨colonless, whole⟩, named, placed, valid, same⟩

theorem ofReference_error_iff {reference : String} {fault : ReferenceFault} :
    ofReference reference = .error fault ↔ Breaks reference fault := by
  constructor
  · intro refused
    -- The checks come in the order of the rules, so a fault tells that those before it are kept.
    unfold ofReference at refused
    split at refused
    next uncut =>
      cases refused
      exact .missingColon (cutAt?_eq_none_iff.mp uncut)
    next container path cut =>
      obtain ⟨colonless, whole⟩ := cutAt?_eq_some_iff.mp cut
      rw [segments_eq_pieces] at refused
      split at refused
      next empty =>
        cases refused
        obtain rfl : container = "" := by simpa using empty
        exact .missingContainer path (by simpa using whole)
      next filled =>
        have named : container ≠ "" := by simpa using filled
        split at refused
        next unplaced =>
          cases refused
          exact .missingClass container path whole colonless named (by simpa using unplaced)
        · split at refused
          next segment invalid =>
            cases refused
            obtain ⟨invalid, earlier, later, split, valid⟩ := List.find?_eq_some_iff_append.mp invalid
            exact .invalidSegment container path segment earlier later whole colonless named split
              (by simpa using valid) (by simpa using invalid)
          · cases refused
  · intro broken
    have cutAtColon {container path : String} (whole : reference = container ++ ":" ++ path)
        (colonless : ':' ∉ container.toList) : cutAt? ':' reference = some (container, path) :=
      cutAt?_eq_some_iff.mpr ⟨colonless, whole⟩
    cases broken with
    | missingColon colonless => simp [ofReference, cutAt?_eq_none_iff.mpr colonless]
    | missingContainer path whole =>
      have cut : cutAt? ':' reference = some ("", path) :=
        cutAtColon (by simpa using whole) (by simp)
      simp [ofReference, cut]
    | missingClass container path whole colonless named unplaced =>
      simp [ofReference, cutAtColon whole colonless, named, segments_eq_pieces, unplaced]
    | invalidSegment container path segment earlier later whole colonless named split valid invalid =>
      have leftmost : (pieces isSlash path).find? (!isIdentifier ·) = some segment :=
        List.find?_eq_some_iff_append.mpr
          ⟨by simpa using invalid, earlier, later, split, by simpa using valid⟩
      have placed : pieces isSlash path ≠ [] := by simp [split]
      simp [ofReference, cutAtColon whole colonless, named, segments_eq_pieces, placed, leftmost]

/-- A text refers to a class or breaks a rule. -/
theorem refers_or_breaks (text : String) :
    (∃ container path, Refers text container path) ∨ ∃ fault, Breaks text fault := by
  cases read : ofReference text with
  | ok identity =>
    obtain ⟨container, path, refers, _⟩ := ofReference_ok_iff_refers.mp read
    exact Or.inl ⟨container, path, refers⟩
  | error fault => exact Or.inr ⟨fault, ofReference_error_iff.mp read⟩

theorem parse_of_refers {raw container path : String} (refers : Refers (trim raw) container path) :
    parse raw = .ok (ofPath container path) :=
  mapError_ok_iff.mpr (ofReference_ok_iff_refers.mpr ⟨container, path, refers, rfl⟩)

theorem parse_of_breaks {raw : String} {fault : ReferenceFault} (broken : Breaks (trim raw) fault) :
    parse raw = .error ⟨trim raw, fault⟩ := by
  rw [parse, ofReference_error_iff.mpr broken]
  rfl

/-- A text is read exactly when it refers to a class once the blanks around it are gone. The class
has the container's name and the pieces of the path. Any other text is reported with the first rule
that it breaks. -/
theorem reference_follows_grammar (raw : String) :
    ((∃ identity, parse raw = .ok identity) ↔
        ∃ container path, Refers (trim raw) container path) ∧
      (∀ container path, Refers (trim raw) container path →
        ∃ identity, parse raw = .ok identity ∧ identity.container = container ∧
          identity.segments = pieces isSlash path ∧
          identity.relativeName = "/".intercalate (pieces isSlash path)) ∧
      ((¬ ∃ container path, Refers (trim raw) container path) →
        ∃ fault, Breaks (trim raw) fault ∧ parse raw = .error ⟨trim raw, fault⟩) := by
  refine ⟨⟨?_, ?_⟩, ?_, ?_⟩
  · rintro ⟨identity, read⟩
    obtain ⟨container, path, refers, _⟩ := ofReference_ok_iff_refers.mp (mapError_ok_iff.mp read)
    exact ⟨container, path, refers⟩
  · rintro ⟨container, path, refers⟩
    exact ⟨_, parse_of_refers refers⟩
  · intro container path refers
    refine ⟨ofPath container path, parse_of_refers refers, rfl, ?_, ?_⟩
    · rw [segments_ofPath, segments_eq_pieces]
    · rw [← segments_eq_pieces]
      rfl
  · intro unreferring
    obtain ⟨fault, broken⟩ := (refers_or_breaks (trim raw)).resolve_left unreferring
    exact ⟨fault, broken, parse_of_breaks broken⟩

/-- A container's name may hold a blank, and rows of slashes divide a path once. Of two invalid
segments the left one is reported. -/
theorem reference_follows_grammar_blog :
    let raw := "\u3000Acme Blog:Blog\\\\Admin//PostDTO\n"
    let refused := "Acme:Blog/2fast/x-y "
    Refers (trim raw) "Acme Blog" "Blog\\\\Admin//PostDTO" ∧
      (∃ identity, parse raw = .ok identity ∧ identity.container = "Acme Blog" ∧
        identity.relativeName = "Blog/Admin/PostDTO") ∧
      (¬ ∃ container path, Refers (trim refused) container path) ∧
      ∃ fault, Breaks (trim refused) fault ∧ parse refused = .error ⟨trim refused, fault⟩ ∧
        fault = .invalidSegment "2fast" := by
  intro raw refused
  have refers : Refers (trim raw) "Acme Blog" "Blog\\\\Admin//PostDTO" :=
    ⟨by decide +kernel, by decide, by decide, by decide +kernel, by decide +kernel⟩
  have failed : parse refused = .error ⟨"Acme:Blog/2fast/x-y", .invalidSegment "2fast"⟩ := by
    decide +kernel
  have unreferring : ¬ ∃ container path, Refers (trim refused) container path := by
    rintro ⟨container, path, other⟩
    cases (parse_of_refers other).symm.trans failed
  obtain ⟨identity, read, container, _, place⟩ :=
    (reference_follows_grammar raw).2.1 _ _ refers
  obtain ⟨fault, broken, reported⟩ := (reference_follows_grammar refused).2.2 unreferring
  have leftmost : fault = .invalidSegment "2fast" :=
    congrArg ReferenceError.fault (Except.error.inj (reported.symm.trans failed))
  have joined : "/".intercalate (pieces isSlash "Blog\\\\Admin//PostDTO") =
      "Blog/Admin/PostDTO" := by
    decide +kernel
  exact ⟨refers, ⟨identity, read, container, place.trans joined⟩, unreferring, fault, broken,
    reported, leftmost⟩

end DtoScaffold.ClassIdentity
