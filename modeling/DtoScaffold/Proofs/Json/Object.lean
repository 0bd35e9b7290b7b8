import DtoScaffold.Json.Record
import DtoScaffold.Proofs.Json.Text

/-!
# Written objects read again

An object is written with each member behind a gap and a comma between two members, on one line or
on several. A reader that takes the written members one after the other reads the whole object and
stops right behind it. So whether an object is read again is a question about its members alone.
-/
namespace DtoScaffold.Json

variable {α β σ ρ : Type}

/-- A reader reads what is written as a value, whatever follows. -/
def ReadsBack (read : Reader α) (written : List Char) (value : α) : Prop :=
  ∀ after, read (written ++ after) = .ok (value, after)

theorem ReadsBack.map {read : Reader α} {written : List Char} {value : α}
    (readsBack : ReadsBack read written value) (f : α → β) :
    ReadsBack (fun cs => (read cs).map fun (value, rest) => (f value, rest)) written (f value) := by
  intro after
  simp only [readsBack after, Except.map]

theorem document_of_readsBack {read : Reader α} {source : String} {value : α}
    (readsBack : ReadsBack read source.toList value) : document read source = .ok value := by
  have whole := readsBack []
  rw [List.append_nil] at whole
  rw [document, whole]
  rfl

/-- Characters that may stand between the parts of a document. -/
def Gap (cs : List Char) : Prop :=
  ∀ c ∈ cs, isSpace c = true

theorem gap_nil : Gap [] :=
  nofun

theorem skipSpace_gap {gap : List Char} (blank : Gap gap) {c : Char} (solid : isSpace c = false)
    (rest : List Char) : skipSpace (gap ++ c :: rest) = c :: rest := by
  -- Nothing but the gap is skipped, since the next character is solid.
  rw [skipSpace, List.dropWhile_append_of_pos blank, List.dropWhile_cons_of_neg (by simp [solid])]

theorem readsBack_textValue {gap : List Char} (blank : Gap gap) (value : String) :
    ReadsBack textValue (gap ++ (quoted value).toList) value := by
  intro after
  have start : skipSpace (gap ++ (quoted value).toList ++ after) =
      '"' :: (value.toList.flatMap escaped ++ '"' :: after) := by
    rw [toList_quoted, List.append_assoc, List.cons_append, skipSpace_gap blank (by decide),
      List.append_assoc]
    rfl
  rw [textValue, start]
  exact text_quoted value after

/-- A member with its key, its colon and the value behind it. -/
def memberChars (key : String) (value : List Char) : List Char :=
  (quoted key).toList ++ ':' :: value

/-- An object with a gap before each member and another one before the closing brace. -/
def objectChars (gap ending : List Char) : List (List Char) → List Char
  | [] => ['\x7b', '\x7d']
  | member :: rest =>
    '\x7b' :: (gap ++ member ++ rest.flatMap (',' :: gap ++ ·) ++ ending ++ ['\x7d'])

/-- A reader of members goes from one state to another by taking written members in order. -/
inductive Takes (member : String → σ → Reader σ) : σ → List (List Char) → σ → Prop
  | none (state : σ) : Takes member state [] state
  | one {state next last : σ} {key : String} {value : List Char} {rest : List (List Char)}
      (readsBack : ReadsBack (member key state) (':' :: value) next)
      (later : Takes member next rest last) :
      Takes member state (memberChars key value :: rest) last

section Members

variable {member : String → σ → Reader σ} {state next last : σ} {steps : Nat}
  {gap ending : List Char}

private theorem read_member {key : String} {value : List Char}
    (readsBack : ReadsBack (member key state) (':' :: value) next) (steps : Nat)
    (rest : List Char) :
    ∃ cs, memberChars key value ++ rest = '"' :: cs ∧
      (do
        let (key, rest) ← text cs
        let (state, rest) ← member key state rest
        members member steps false state rest) = members member steps false next rest := by
  -- Behind its opening quote the key is read up to the colon, where the member's reader starts.
  refine ⟨key.toList.flatMap escaped ++ '"' :: (':' :: value ++ rest), ?_, ?_⟩
  · simp [memberChars, toList_quoted]
  · rw [text_quoted]
    simp only [bind, Except.bind, readsBack rest]

/-- The first member stands behind a gap. -/
private theorem members_first (blank : Gap gap) {key : String} {value : List Char}
    (readsBack : ReadsBack (member key state) (':' :: value) next) (rest : List Char) :
    members member (steps + 1) true state (gap ++ (memberChars key value ++ rest)) =
      members member steps false next rest := by
  obtain ⟨cs, written, read⟩ := read_member readsBack steps rest
  rw [members, written, skipSpace_gap blank (by decide), ← read]
  rfl

/-- Every other member stands behind a comma and a gap. -/
private theorem members_next (blank : Gap gap) {key : String} {value : List Char}
    (readsBack : ReadsBack (member key state) (':' :: value) next) (rest : List Char) :
    members member (steps + 1) false state (',' :: (gap ++ (memberChars key value ++ rest))) =
      members member steps false next rest := by
  obtain ⟨cs, written, read⟩ := read_member readsBack steps rest
  have comma (others : List Char) : skipSpace (',' :: others) = ',' :: others :=
    List.dropWhile_cons_of_neg (by decide)
  have skipped : skipSpace (gap ++ '"' :: cs) = '"' :: cs := skipSpace_gap blank (by decide) cs
  rw [members, comma, written]
  simp only [Char.reduceEq, imp_self, Bool.false_eq_true, if_false, BEq.rfl, if_true, skipped]
  exact read

private theorem members_end (blank : Gap ending) (first : Bool) (after : List Char) :
    members member (steps + 1) first state (ending ++ '\x7d' :: after) = .ok (state, after) := by
  rw [members, skipSpace_gap blank (by decide)]
  rfl

/-- The characters suffice as steps, because each member has a comma at least. -/
private theorem length_le_commas (gap : List Char) (written : List (List Char)) :
    written.length ≤ (written.flatMap (',' :: gap ++ ·)).length := by
  induction written with
  | nil => exact Nat.le_refl _
  | cons member rest ih =>
    simp only [List.flatMap_cons, List.length_append, List.length_cons]
    omega

/-- The members behind the first one are taken as long as the steps suffice. -/
private theorem members_of_takes (blank : Gap gap) (blankEnd : Gap ending)
    {written : List (List Char)} (takes : Takes member state written last)
    (enough : written.length < steps) (after : List Char) :
    members member steps false state
        (written.flatMap (',' :: gap ++ ·) ++ (ending ++ '\x7d' :: after)) = .ok (last, after) := by
  -- Each member uses up one step, so the bound on the steps is kept by the induction.
  induction takes generalizing steps with
  | none state =>
    obtain ⟨fewer, rfl⟩ := Nat.exists_eq_succ_of_ne_zero (Nat.ne_of_gt enough)
    exact members_end blankEnd false after
  | @one state next last key value rest readsBack later ih =>
    rw [List.length_cons] at enough
    obtain ⟨fewer, rfl⟩ := Nat.exists_eq_succ_of_ne_zero (Nat.ne_zero_of_lt enough)
    have split : (memberChars key value :: rest).flatMap (',' :: gap ++ ·) ++
        (ending ++ '\x7d' :: after) =
          ',' :: (gap ++ (memberChars key value ++
            (rest.flatMap (',' :: gap ++ ·) ++ (ending ++ '\x7d' :: after)))) := by
      simp
    rw [split, members_next blank readsBack]
    exact ih (Nat.lt_of_succ_lt_succ enough)

theorem readsBack_object {space : List Char} (blankStart : Gap space) (blank : Gap gap)
    (blankEnd : Gap ending) {written : List (List Char)}
    (takes : Takes member state written last) :
    ReadsBack (object member state) (space ++ objectChars gap ending written) last := by
  intro after
  cases takes with
  | none =>
    rw [object, objectChars, List.append_assoc]
    simp only [List.cons_append, skipSpace_gap blankStart (c := '\x7b') (by decide)]
    exact members_end gap_nil true after
  | @one _ next _ key value rest readsBack later =>
    have split : space ++ objectChars gap ending (memberChars key value :: rest) ++ after =
        space ++ '\x7b' :: (gap ++ (memberChars key value ++
          (rest.flatMap (',' :: gap ++ ·) ++ (ending ++ '\x7d' :: after)))) := by
      simp [objectChars]
    rw [split, object, skipSpace_gap blankStart (by decide)]
    simp only
    rw [members_first blank readsBack]
    apply members_of_takes blank blankEnd later
    -- The reader has a step for each character, and each of the other members has a comma.
    have commas := length_le_commas gap rest
    simp only [List.length_append, List.length_cons]
    omega

end Members

/-! ### Records -/

/-- A field that is not set yet is read behind its key. -/
theorem readsBack_fieldMember {fields : List (RecordField ρ)} {key : String}
    {field : RecordField ρ} (found : fields.find? (·.key == key) = some field) {draft next : ρ}
    (unset : field.isSet draft = false) {value : List Char}
    (readsBack : ReadsBack (field.read draft) value next) :
    ReadsBack (fieldMember fields key draft) (':' :: value) next := by
  intro after
  have behind : colon (':' :: value ++ after) = .ok (value ++ after) := by rfl
  rw [fieldMember, found]
  simp only [unset, behind, bind, Except.bind, Bool.false_eq_true, if_false]
  exact readsBack after

theorem readsBack_record {fields : List (RecordField ρ)} {draft last : ρ}
    {space gap ending : List Char} (blankStart : Gap space) (blank : Gap gap) (blankEnd : Gap ending)
    {written : List (List Char)} (takes : Takes (fieldMember fields) draft written last) :
    ReadsBack (record fields draft) (space ++ objectChars gap ending written) last := by
  intro after
  have read := readsBack_object gap_nil blank blankEnd takes after
  -- A record may be a list as well, so what is written has to open with a brace.
  have opened : ∃ rest, objectChars gap ending written ++ after = '\x7b' :: rest := by
    cases written <;> exact ⟨_, rfl⟩
  obtain ⟨rest, opened⟩ := opened
  rw [List.nil_append, opened] at read
  rw [record, List.append_assoc, opened, skipSpace_gap blankStart (by decide)]
  exact read

/-! ### The indented form -/

/-- The line end and the blanks before an entry at a depth. -/
def lineGap (depth : Nat) : List Char :=
  '\n' :: List.replicate (2 * depth) ' '

theorem gap_lineGap (depth : Nat) : Gap (lineGap depth) := by
  intro c inside
  rcases List.mem_cons.mp inside with rfl | blank
  · rfl
  · rw [List.eq_of_mem_replicate blank]
    rfl

private theorem toList_intercalate_cons (separator first : String) (rest : List String) :
    (separator.intercalate (first :: rest)).toList =
      first.toList ++ rest.flatMap fun text => separator.toList ++ text.toList := by
  induction rest generalizing first with
  | nil => simp
  | cons second rest ih =>
    rw [String.intercalate_cons_cons, String.toList_append, String.toList_append, ih]
    simp

theorem toList_indentedBlock (depth : Nat) (entries : List String) :
    (indentedBlock depth "\x7b" "\x7d" entries).toList =
      objectChars (lineGap (depth + 1)) (lineGap depth) (entries.map String.toList) := by
  cases entries with
  | nil => simp [indentedBlock, objectChars]
  | cons first rest =>
    simp only [indentedBlock, List.isEmpty_cons, Bool.false_eq_true, if_false, List.map_cons,
      String.toList_append, toList_intercalate_cons]
    simp [objectChars, lineGap, List.flatMap_map]

theorem indentedAt_text (depth : Nat) (value : String) :
    (Value.text value).indentedAt depth = quoted value := by
  rw [Value.indentedAt]

theorem indentedMembers_eq (depth : Nat) (members : List (String × Value)) :
    indentedMembers depth members =
      members.map fun (key, value) => quoted key ++ ": " ++ value.indentedAt depth := by
  induction members with
  | nil => rfl
  | cons first rest ih => rw [indentedMembers, ih, List.map_cons]

/-- An object is written with each member on a line of its own. -/
theorem toList_indentedAt_object (depth : Nat) (members : List (String × Value)) :
    ((Value.object members).indentedAt depth).toList =
      objectChars (lineGap (depth + 1)) (lineGap depth)
        (members.map fun (key, value) =>
          memberChars key (' ' :: (value.indentedAt (depth + 1)).toList)) := by
  rw [Value.indentedAt, toList_indentedBlock, indentedMembers_eq, List.map_map]
  apply congrArg (objectChars _ _)
  apply List.map_congr_left
  intro entry _
  simp [memberChars]

/-! ### The compact form -/

theorem compact_text (value : String) : (Value.text value).compact = quoted value := by
  rw [Value.compact]

theorem compactMembers_eq (members : List (String × Value)) :
    compactMembers members = members.map fun (key, value) => quoted key ++ ":" ++ value.compact := by
  induction members with
  | nil => rfl
  | cons first rest ih => rw [compactMembers, ih, List.map_cons]

/-- An object is written without any blanks. -/
theorem toList_compact_object (members : List (String × Value)) :
    (Value.object members).compact.toList =
      objectChars [] [] (members.map fun (key, value) => memberChars key value.compact.toList) := by
  rw [Value.compact, compactMembers_eq]
  cases members with
  | nil => rfl
  | cons first rest =>
    simp only [List.map_cons, String.toList_append, toList_intercalate_cons]
    simp [objectChars, memberChars, List.flatMap_map]

end DtoScaffold.Json
