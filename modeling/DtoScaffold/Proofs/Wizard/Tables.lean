import DtoScaffold.Proofs.Table
import DtoScaffold.Proofs.Text.ByteOrder
import DtoScaffold.Proofs.Wizard.Collected
import DtoScaffold.Proofs.Wizard.Session

/-!
# Tables of what was told

A line of input holds a line feed at its end only, where trimming cuts it, so no type that is told
in a session holds one, and neither does a type that was read from a text. Main statement: the table
of such a list has the lines that it should have, all of the same shape.
-/
namespace DtoScaffold

open Text

/-! ### Lines of input -/

theorem feed_last_of_mem_inputLines {bytes line : List UInt8} (member : line ∈ inputLines bytes) :
    0x0A ∉ line.dropLast := by
  fun_induction inputLines bytes generalizing line with
  | case1 => cases member
  | case2 b rest ends ih =>
    rcases List.mem_cons.mp member with rfl | later
    · exact List.not_mem_nil
    · exact ih later
  | case3 b rest inside none ih =>
    rw [List.mem_singleton.mp member]
    exact List.not_mem_nil
  | case4 b rest inside first lines more ih =>
    rw [more] at ih
    rcases List.mem_cons.mp member with rfl | later
    · have kept := ih List.mem_cons_self
      cases first with
      | nil => exact List.not_mem_nil
      | cons second others =>
        rw [List.dropLast_cons_cons]
        simp only [List.mem_cons, not_or]
        exact ⟨fun same => inside (beq_iff_eq.mpr same.symm), kept⟩
    · exact ih (List.mem_cons_of_mem _ later)

theorem utf8_of_lineText? {line : List UInt8} {text : String}
    (isText : Wizard.lineText? line = some text) : utf8 text = line := by
  unfold Wizard.lineText? String.fromUTF8? at isText
  split at isText
  · obtain rfl := Option.some.inj isText
    rfl
  · cases isText

/-- Trimming cuts the line feed at the end of a line. -/
theorem feedless_trim {text : String} (last : 0x0A ∉ (utf8 text).dropLast) :
    '\n' ∉ (trim text).toList := by
  intro inside
  obtain ⟨first, rest, split⟩ := List.append_of_mem inside
  obtain ⟨before, after, whole⟩ := trim_isInfix text
  -- Something follows the line feed, because a trimmed text does not end in a blank.
  have follows : rest ≠ [] := by
    rintro rfl
    have filled : (trim text).isEmpty = false := by
      apply Bool.eq_false_iff.mpr
      intro empty
      rw [String.isEmpty_iff.mp empty] at inside
      cases inside
    have solid := (bare_trim filled).last '\n' (by simp [split])
    cases solid
  -- Its byte then stands before the last one, where no line has it.
  apply last
  have encoded : utf8 text = (before ++ first).flatMap String.utf8EncodeChar ++
      0x0A :: (rest ++ after).flatMap String.utf8EncodeChar := by
    rw [utf8_eq, ← whole, split]
    simp [String.utf8EncodeChar]
  have more : (rest ++ after).flatMap String.utf8EncodeChar ≠ [] := by
    obtain ⟨c, others, rfl⟩ := List.exists_cons_of_ne_nil follows
    simp [String.utf8EncodeChar_ne_nil]
  rw [encoded, List.dropLast_append_of_ne_nil (by simp), List.dropLast_cons_of_ne_nil more]
  simp

/-! ### Types that were told -/

theorem feedless_inferType (name : String) : '\n' ∉ (inferType name).toList := by
  have suggested : ∀ convention ∈ typeConventions, '\n' ∉ convention.2.toList := by decide
  unfold inferType
  dsimp only
  split
  next found => exact suggested _ (List.mem_of_find?_eq_some found)
  · decide

namespace PropertyList

theorem Unbroken.append {list : PropertyList} (unbroken : list.Unbroken) {name type : String}
    (whole : '\n' ∉ type.toList) : Unbroken ⟨list.entries ++ [⟨name, type⟩]⟩ := by
  intro property member
  rcases List.mem_append.mp member with old | new
  · exact unbroken property old
  · rwa [List.mem_singleton.mp new]

theorem unbroken_of_parse {raw : String} {list : PropertyList} (read : parse raw = .ok list) :
    list.Unbroken := by
  intro property member inside
  cases (solid_type read member).gapless '\n' inside

end PropertyList

namespace Wizard

variable {resolve : Resolver} {taken : Path → Bool} {colored : Bool} {wizard after : Wizard}
  {answer : String} {verdict : Except InputRejection Unit}

theorem Step.unbroken (step : Step resolve taken wizard answer verdict after)
    (whole : '\n' ∉ answer.toList) (unbroken : wizard.properties.Unbroken) :
    after.properties.Unbroken := by
  cases step with
  | type name longer _ added =>
    obtain ⟨_, rfl⟩ := PropertyList.add_ok_iff.mp added
    apply unbroken.append
    split
    · exact feedless_inferType name
    · exact whole
  | _ => exact unbroken

theorem unbroken_answerAll {lines : List String}
    (whole : ∀ line ∈ lines, '\n' ∉ (trim line).toList) (unbroken : wizard.properties.Unbroken) :
    (wizard.answerAll resolve taken lines).properties.Unbroken := by
  induction lines generalizing wizard with
  | nil => exact unbroken
  | cons line rest ih =>
    have step := step_advance resolve taken wizard line
    exact ih (fun other member => whole other (List.mem_cons_of_mem _ member))
      (step.unbroken (whole line List.mem_cons_self) unbroken)

/-- Texts that are read from an input are single lines. -/
theorem Reads.feedless {input : List UInt8} {lines rest : List (List UInt8)} {texts : List String}
    (reads : wizard.Reads resolve taken lines texts) (divided : inputLines input = lines ++ rest) :
    ∀ text ∈ texts, '\n' ∉ (trim text).toList := by
  intro text member
  have told : some text ∈ lines.map lineText? := by
    rw [reads.texts_eq]
    exact List.mem_map_of_mem member
  obtain ⟨line, inside, isText⟩ := List.mem_map.mp told
  apply feedless_trim
  rw [utf8_of_lineText? isText]
  exact feed_last_of_mem_inputLines (divided ▸ List.mem_append_left rest inside)

/-- An outcome is what lines that were read have led to. -/
theorem exists_reads_of_outcome {defaults : Defaults} {input : ByteArray} {outcome : Outcome}
    (ended : ((start defaults).run resolve taken colored input).result = .ok outcome) :
    ∃ lines rest texts, inputLines input.toList = lines ++ rest ∧
      (start defaults).Reads resolve taken lines texts ∧
      ((start defaults).answerAll resolve taken texts).outcome? = some outcome := by
  obtain ⟨lines, rest, texts, divided, reads, ends⟩ : ∃ lines rest texts,
      inputLines input.toList = lines ++ rest ∧ (start defaults).Reads resolve taken lines texts ∧ _ :=
    exists_reads (start defaults) (inputLines input.toList)
  refine ⟨lines, rest, texts, divided, reads, ?_⟩
  by_cases done : ((start defaults).answerAll resolve taken texts).phase = .done
  · obtain ⟨collected, told⟩ := exists_outcome_of_done defaults texts done
    rw [run_of_done divided reads done told] at ended
    cases ended
    exact told
  · -- A session that stops at a question has no outcome.
    have noText := ends.resolve_left done
    cases rest with
    | nil =>
      rw [List.append_nil] at divided
      rw [run_of_end divided reads done] at ended
      cases ended
    | cons line rest =>
      rw [run_of_no_text divided reads done (noText line rfl)] at ended
      cases ended

theorem unbroken_of_outcome {defaults : Defaults} {input : ByteArray} {outcome : Outcome}
    (unbroken : defaults.properties.Unbroken)
    (ended : ((start defaults).run resolve taken colored input).result = .ok outcome) :
    outcome.properties.Unbroken := by
  obtain ⟨lines, rest, texts, divided, reads, told⟩ := exists_reads_of_outcome ended
  rw [(outcome?_eq_some told).2.2.2]
  exact unbroken_answerAll (reads.feedless divided) unbroken

end Wizard

/-- The table of a list whose types hold no line feed consists of as many lines as the list has
properties and four more, all equally long and divided by bars or plus signs at the same positions.
The row of each property holds its whole name and its whole type, with nothing but blanks between
them and the next bar. The lists that are read from a text have such types, and a session keeps
them so. -/
theorem table_is_rectangular :
    (∀ list : PropertyList, list.WellNamed → list.Unbroken → ∃ middle last lines,
      (propertyTable list).toList.splitOn '\n' = lines ++ [[]] ∧
        list.Tabulated middle last lines) ∧
    (∀ raw list, PropertyList.parse raw = .ok list → list.Unbroken) ∧
    (∀ resolve taken colored defaults input outcome, defaults.properties.Unbroken →
      ((Wizard.start defaults).run resolve taken colored input).result = .ok outcome →
        outcome.properties.Unbroken) := by
  refine ⟨?_, ?_, ?_⟩
  · intro list wellNamed unbroken
    have feedless : Php.Feedless ((Table.fitting list).rows list) :=
      PropertyList.feedless_rows wellNamed unbroken _
    exact ⟨_, _, _, Php.splitOn_unlines feedless, PropertyList.tabulated_rows list⟩
  · intro raw list read
    exact PropertyList.unbroken_of_parse read
  · intro resolve taken colored defaults input outcome unbroken ended
    exact Wizard.unbroken_of_outcome unbroken ended

/-- A session that tells a type with a blank, a bar and letters of two bytes, in lines that end in a
carriage return and a line feed. -/
theorem table_is_rectangular_post :
    let resolve := (Registry.ofList [.named "App" ⟨"/srv/app"⟩ "App"]).resolve
    let wizard := Wizard.start ⟨"Entity", none, .empty, false⟩
    let input := "Model\r\nApp:PostDTO\r\nsize\r\nGröße | null\r\n\r\nyes\r\n".toUTF8
    let list : PropertyList := ⟨[⟨"size", "Größe | null"⟩]⟩
    (wizard.run resolve Memory.empty.taken false input).result =
        .ok ⟨"Model", ⟨"App", "PostDTO"⟩, list, true⟩ ∧
      list.WellNamed ∧ list.Unbroken ∧ ∃ middle last lines,
        (propertyTable list).toList.splitOn '\n' = lines ++ [[]] ∧
          list.Tabulated middle last lines := by
  intro resolve wizard input list
  have ended : (wizard.run resolve Memory.empty.taken false input).result =
      .ok ⟨"Model", ⟨"App", "PostDTO"⟩, list, true⟩ := by decide +kernel
  have wellNamed : list.WellNamed := ⟨by decide, by decide⟩
  obtain ⟨tables, _, sessions⟩ := table_is_rectangular
  have empty : PropertyList.empty.Unbroken := nofun
  have unbroken : list.Unbroken :=
    sessions resolve Memory.empty.taken false ⟨"Entity", none, .empty, false⟩ input _ empty ended
  exact ⟨ended, wellNamed, unbroken, tables list wellNamed unbroken⟩

example : propertyTable ⟨[⟨"title", "string"⟩, ⟨"createdAt", "\\DateTime"⟩]⟩ =
    Php.unlines
      ["+---------------+---------------+",
        "| Property Name | Property Type |",
        "+---------------+---------------+",
        "| title         | string        |",
        "| createdAt     | \\DateTime     |",
        "+---------------+---------------+"] := by
  decide +kernel

end DtoScaffold
