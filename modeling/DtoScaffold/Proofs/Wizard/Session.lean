import DtoScaffold.Proofs.Wizard.Outcomes
import DtoScaffold.Wizard.Session

/-!
# Sessions as runs over lines

A session gives the wizard the lines of its input in order and reads none behind the one that ends
the questions. So it ends in one of three ways, which the first lines decide: the wizard is done, a
line is not text, or there are no more lines. In the first case there always is an outcome.
-/
namespace DtoScaffold

open Text

/-- A session that goes on when something was shown and bytes were read before. -/
def Session.behind (session : Session) (shown : String) (bytes : Nat) : Session :=
  { session with output := shown ++ session.output, consumed := bytes + session.consumed }

theorem Session.behind_behind (session : Session) (first second : String) (less more : Nat) :
    (session.behind second more).behind first less =
      session.behind (first ++ second) (less + more) := by
  simp [behind, String.append_assoc, Nat.add_assoc]

namespace Wizard

/-- The text of a line of input, unless it is not UTF-8. -/
def lineText? (line : List UInt8) : Option String :=
  String.fromUTF8? ⟨line.toArray⟩

section

variable (resolve : Resolver) (taken : Path → Bool) (colored : Bool)

/-- What is shown for a line: the question that it answers, and then the reason of a rejection or,
behind the question for the class, the heading of the properties. -/
def exchange (wizard : Wizard) (text : String) : String :=
  wizard.prompt colored ++
    match (wizard.advance resolve taken text).1 with
    | .error rejection => painted colored .red rejection.message ++ "\n"
    | .ok () =>
      if wizard.phase = .reference then "\nStart adding properties to the DTO\n\n" else ""

/-- What is shown for lines, each at the question that the lines before it lead to. -/
def transcript (wizard : Wizard) (texts : List String) : String :=
  String.join (texts.mapIdx fun count text =>
    (wizard.answerAll resolve taken (texts.take count)).exchange resolve taken colored text)

/-- Lines that are read as texts and answer questions: none of them is read when the wizard is
done. -/
structure Reads (wizard : Wizard) (lines : List (List UInt8)) (texts : List String) : Prop where
  texts_eq : lines.map lineText? = texts.map some
  asking : ∀ count < texts.length,
    (wizard.answerAll resolve taken (texts.take count)).phase ≠ .done

end

variable {resolve : Resolver} {taken : Path → Bool} {colored : Bool} {wizard : Wizard}
  {line : List UInt8} {lines rest : List (List UInt8)} {text : String} {texts : List String}

theorem exchange_eq (wizard : Wizard) (text : String) :
    wizard.exchange resolve taken colored text = wizard.prompt colored ++
      wizard.remark colored (wizard.advance resolve taken text).1
        (wizard.advance resolve taken text).2 := by
  have step := step_advance resolve taken wizard text
  have heading : asLine "" ++ asLine "Start adding properties to the DTO" ++ asLine "" =
      "\nStart adding properties to the DTO\n\n" := by decide
  rw [exchange]
  generalize (wizard.advance resolve taken text).1 = verdict,
    (wizard.advance resolve taken text).2 = after at step ⊢
  -- Only an accepted class makes the wizard go on to the properties.
  cases step with
  | root asked => simp [remark, isCollecting, asked]
  | reference _ asked => simp [remark, isCollecting, asked, heading]
  | stop asked => simp [remark, isCollecting, asked]
  | name _ asked => simp [remark, isCollecting, asked]
  | type _ _ asked => simp [remark, isCollecting, asked]
  | choice _ asked => simp [remark, isCollecting, asked]
  | done asked => simp [remark, isCollecting, asked]
  | _ => rfl

theorem transcript_cons (wizard : Wizard) (text : String) (texts : List String) :
    wizard.transcript resolve taken colored (text :: texts) =
      wizard.exchange resolve taken colored text ++
        (wizard.advance resolve taken text).2.transcript resolve taken colored texts := by
  simp [transcript, String.join_cons, List.mapIdx_cons, answerAll]

theorem reads_nil (wizard : Wizard) : wizard.Reads resolve taken [] [] :=
  ⟨rfl, nofun⟩

theorem reads_cons_iff :
    wizard.Reads resolve taken (line :: lines) (text :: texts) ↔
      wizard.phase ≠ .done ∧ lineText? line = some text ∧
        (wizard.advance resolve taken text).2.Reads resolve taken lines texts := by
  constructor
  · rintro ⟨same, asking⟩
    obtain ⟨first, later⟩ := List.cons_eq_cons.mp same
    refine ⟨asking 0 (Nat.zero_lt_succ _), first, later, ?_⟩
    intro count short
    exact asking (count + 1) (Nat.succ_lt_succ short)
  · rintro ⟨asks, first, later, asking⟩
    refine ⟨by simp [first, later], ?_⟩
    intro count short
    cases count with
    | zero => exact asks
    | succ count => exact asking count (Nat.lt_of_succ_lt_succ short)

/-! ### The steps of a session -/

theorem isDone_eq_false (asks : wizard.phase ≠ .done) : wizard.isDone = false :=
  beq_false_of_ne asks

theorem converse_of_done (done : wizard.phase = .done) (lines : List (List UInt8)) :
    wizard.converse resolve taken colored lines = ⟨wizard.finish, "", 0⟩ := by
  have isDone : wizard.isDone = true := by simp [Wizard.isDone, done]
  cases lines <;> simp [converse, isDone]

theorem converse_nil (asks : wizard.phase ≠ .done) :
    wizard.converse resolve taken colored [] =
      ⟨.error .unexpectedEnd, wizard.prompt colored, 0⟩ := by
  simp [converse, isDone_eq_false asks]

theorem converse_of_no_text (asks : wizard.phase ≠ .done) (noText : lineText? line = none)
    (rest : List (List UInt8)) :
    wizard.converse resolve taken colored (line :: rest) =
      ⟨.error .notText, wizard.prompt colored, line.length⟩ := by
  rw [lineText?] at noText
  simp [converse, isDone_eq_false asks, noText]

theorem converse_of_text (asks : wizard.phase ≠ .done) (isText : lineText? line = some text)
    (rest : List (List UInt8)) :
    wizard.converse resolve taken colored (line :: rest) =
      ((wizard.advance resolve taken text).2.converse resolve taken colored rest).behind
        (wizard.exchange resolve taken colored text) line.length := by
  rw [lineText?] at isText
  simp [converse, isDone_eq_false asks, isText, exchange_eq, Session.behind]

/-- Lines that are read lead the session to the wizard that they lead to. -/
theorem converse_of_reads (reads : wizard.Reads resolve taken lines texts)
    (rest : List (List UInt8)) :
    wizard.converse resolve taken colored (lines ++ rest) =
      ((wizard.answerAll resolve taken texts).converse resolve taken colored rest).behind
        (wizard.transcript resolve taken colored texts) lines.flatten.length := by
  -- Each line answers the wizard that the lines before it lead to, so the wizard varies.
  induction lines generalizing wizard texts with
  | nil =>
    obtain rfl := List.map_eq_nil_iff.mp reads.texts_eq.symm
    simp [Session.behind, transcript, answerAll]
  | cons line lines ih =>
    cases texts with
    | nil => cases reads.texts_eq
    | cons text texts =>
      obtain ⟨asks, isText, later⟩ := reads_cons_iff.mp reads
      rw [List.cons_append, converse_of_text asks isText, ih later, Session.behind_behind,
        transcript_cons, List.flatten_cons, List.length_append]
      rfl

/-- Some first lines are read, and then the wizard is done, or the next line is not text, or there
is none. -/
theorem exists_reads (wizard : Wizard) (lines : List (List UInt8)) :
    ∃ read rest texts, lines = read ++ rest ∧ wizard.Reads resolve taken read texts ∧
      ((wizard.answerAll resolve taken texts).phase = .done ∨
        ∀ line ∈ rest.head?, lineText? line = none) := by
  induction lines generalizing wizard with
  | nil => exact ⟨[], [], [], rfl, reads_nil wizard, .inr nofun⟩
  | cons line lines ih =>
    -- Whether a line is text matters only while the wizard asks.
    by_cases done : wizard.phase = .done
    · exact ⟨[], line :: lines, [], rfl, reads_nil wizard, .inl done⟩
    · cases isText : lineText? line with
      | none => exact ⟨[], line :: lines, [], rfl, reads_nil wizard, .inr (by simpa using isText)⟩
      | some text =>
        obtain ⟨read, rest, texts, rfl, reads, ends⟩ := ih (wizard.advance resolve taken text).2
        exact ⟨line :: read, rest, text :: texts, rfl, reads_cons_iff.mpr ⟨done, isText, reads⟩,
          ends⟩

theorem run_of_reads {input : ByteArray} (divided : inputLines input.toList = lines ++ rest)
    (reads : wizard.Reads resolve taken lines texts) :
    wizard.run resolve taken colored input =
      ((wizard.answerAll resolve taken texts).converse resolve taken colored rest).behind
        (introduction colored ++ wizard.transcript resolve taken colored texts)
        lines.flatten.length := by
  rw [run, divided, converse_of_reads reads]
  simp [Session.behind, String.append_assoc]

/-- A wizard that is done after answers to all its questions has an outcome. -/
theorem exists_outcome_of_done (defaults : Defaults) (texts : List String)
    (done : ((start defaults).answerAll resolve taken texts).phase = .done) :
    ∃ outcome, ((start defaults).answerAll resolve taken texts).outcome? = some outcome := by
  have settled : ((start defaults).answerAll resolve taken texts).Settled resolve taken :=
    settled_answerAll defaults texts
  obtain ⟨identity, _, held⟩ := settled (by simp [done, Phase.rank])
  simp [outcome?, done, held.chosen]

/-! ### The ends of a session -/

variable {input : ByteArray}

/-- What the wizard has collected when it is done is the result, whatever lines there are behind. -/
theorem run_of_done (divided : inputLines input.toList = lines ++ rest)
    (reads : wizard.Reads resolve taken lines texts)
    (done : (wizard.answerAll resolve taken texts).phase = .done) {outcome : Outcome}
    (collected : (wizard.answerAll resolve taken texts).outcome? = some outcome) :
    wizard.run resolve taken colored input =
      ⟨.ok outcome, introduction colored ++ wizard.transcript resolve taken colored texts,
        lines.flatten.length⟩ := by
  have result : (wizard.answerAll resolve taken texts).finish = .ok outcome := by
    simp [finish, collected]
  rw [run_of_reads divided reads, converse_of_done done, result]
  simp [Session.behind]

theorem run_of_no_text (divided : inputLines input.toList = lines ++ line :: rest)
    (reads : wizard.Reads resolve taken lines texts)
    (asks : (wizard.answerAll resolve taken texts).phase ≠ .done)
    (noText : lineText? line = none) :
    wizard.run resolve taken colored input =
      ⟨.error .notText, introduction colored ++ wizard.transcript resolve taken colored texts ++
        (wizard.answerAll resolve taken texts).prompt colored, (lines ++ [line]).flatten.length⟩ := by
  rw [run_of_reads divided reads, converse_of_no_text asks noText]
  simp [Session.behind]

theorem run_of_end (divided : inputLines input.toList = lines)
    (reads : wizard.Reads resolve taken lines texts)
    (asks : (wizard.answerAll resolve taken texts).phase ≠ .done) :
    wizard.run resolve taken colored input =
      ⟨.error .unexpectedEnd, introduction colored ++
        wizard.transcript resolve taken colored texts ++
          (wizard.answerAll resolve taken texts).prompt colored, input.toList.length⟩ := by
  have whole : inputLines input.toList = lines ++ [] := by rw [divided, List.append_nil]
  have all : lines.flatten = input.toList := by rw [← divided, flatten_inputLines]
  rw [run_of_reads whole reads, converse_nil asks, all]
  simp [Session.behind]

/-- A session is a run of the wizard over the lines of the input. Some first lines of it are read,
and what they lead to decides how it ends. When the wizard is done, its outcome is the result, and
what follows these lines is neither read nor plays a part. A next line that is not text, or none,
makes the session fail. Each line that is read is shown as an exchange behind the introduction. -/
theorem session_runs_over_lines (resolve : Resolver) (taken : Path → Bool) (colored : Bool)
    (defaults : Defaults) (input : ByteArray) :
    let wizard := start defaults
    let session := wizard.run resolve taken colored
    let reached := fun texts => wizard.answerAll resolve taken texts
    let shown := fun texts => introduction colored ++ wizard.transcript resolve taken colored texts
    (∃ read rest texts, inputLines input.toList = read ++ rest ∧
      wizard.Reads resolve taken read texts ∧
      ((reached texts).phase = .done ∨ ∀ line ∈ rest.head?, lineText? line = none)) ∧
    ∀ read rest texts, inputLines input.toList = read ++ rest →
      wizard.Reads resolve taken read texts →
      ((reached texts).phase = .done →
        ∃ outcome, (reached texts).outcome? = some outcome ∧
          session input = ⟨.ok outcome, shown texts, read.flatten.length⟩ ∧
          ∀ other, read <+: inputLines other.toList → session other = session input) ∧
      ((reached texts).phase ≠ .done →
        (∀ line later, rest = line :: later → lineText? line = none →
          session input = ⟨.error .notText, shown texts ++ (reached texts).prompt colored,
            (read ++ [line]).flatten.length⟩) ∧
        (rest = [] →
          session input = ⟨.error .unexpectedEnd, shown texts ++ (reached texts).prompt colored,
            input.toList.length⟩)) := by
  intro wizard session reached shown
  refine ⟨exists_reads wizard _, ?_⟩
  intro read rest texts divided reads
  constructor
  · intro done
    obtain ⟨outcome, collected⟩ := exists_outcome_of_done defaults texts done
    have result : session input = _ := run_of_done divided reads done collected
    refine ⟨outcome, collected, result, ?_⟩
    -- Another input that starts with the same lines is divided there as well.
    rintro other ⟨more, dividedOther⟩
    have resultOther : session other = _ := run_of_done dividedOther.symm reads done collected
    rw [result, resultOther]
  · intro asks
    constructor
    · rintro line later rfl noText
      exact run_of_no_text divided reads asks noText
    · rintro rfl
      rw [List.append_nil] at divided
      exact run_of_end divided reads asks

/-- A session with a rejected class. Its input goes on behind the last answer, breaks off before it,
or has a byte there that is no text. -/
theorem session_runs_over_lines_post :
    let resolve := (Registry.ofList [.named "App" ⟨"/srv/app"⟩ "App"]).resolve
    let wizard := start ⟨"Entity", none, .empty, false⟩
    let session := wizard.run resolve Memory.empty.taken false
    let asked := ["Model\n", "Post\n", "App:PostDTO\n", "\n"]
    let answered := asked ++ ["yes\n"]
    let bytes := fun texts : List String => texts.map fun text => text.toUTF8.toList
    let input := fun lines : List (List UInt8) => ByteArray.mk lines.flatten.toArray
    let welcome :=
      "\n                                       \n  Welcome to the DTOGen DTO generator  \n" ++
      "                                       \n\n" ++
      "This command helps you generate Data Transfer Objects (DTOs).\n\n" ++
      "First, you need to specify the root directory for the objects.\n" ++
      "Then specify the DTO name in shortcut notation like AcmeBlogBundle:PostDTO.\n\n"
    let shown := welcome ++ "Enter the root directory [Entity]: Enter the DTO name: " ++
      "The name must contain a : (\"Post\" given, expecting something like " ++
      "AcmeBlogBundle:Blog/PostDTO)\n" ++
      "Enter the DTO name: \nStart adding properties to the DTO\n\n" ++
      "New property name (press <return> to stop adding properties): " ++
      "Do you want to generate a Skeleton Assembler class [no]? "
    session (input (bytes answered ++ [[0xFF]])) =
        ⟨.ok ⟨"Model", ⟨"App", "PostDTO"⟩, .empty, true⟩, shown, 28⟩ ∧
      session (input (bytes asked ++ [[0xFF]])) = ⟨.error .notText, shown, 25⟩ ∧
      session (input (bytes asked)) = ⟨.error .unexpectedEnd, shown, 24⟩ := by
  intro resolve wizard session asked answered bytes input welcome shown
  have runs (input : ByteArray) :=
    (session_runs_over_lines resolve Memory.empty.taken false ⟨"Entity", none, .empty, false⟩
      input).2
  have readAnswered : wizard.Reads resolve Memory.empty.taken (bytes answered) answered :=
    ⟨by decide +kernel, by decide +kernel⟩
  have readAsked : wizard.Reads resolve Memory.empty.taken (bytes asked) asked :=
    ⟨by decide +kernel, by decide +kernel⟩
  have told : introduction false ++ wizard.transcript resolve Memory.empty.taken false answered =
      shown := by decide +kernel
  have toldAsked : introduction false ++ wizard.transcript resolve Memory.empty.taken false asked ++
      (wizard.answerAll resolve Memory.empty.taken asked).prompt false = shown := by decide +kernel
  have asks : (wizard.answerAll resolve Memory.empty.taken asked).phase ≠ .done := by
    decide +kernel
  refine ⟨?_, ?_, ?_⟩
  · have divided : inputLines (input (bytes answered ++ [[0xFF]])).toList =
        bytes answered ++ [[0xFF]] := by decide +kernel
    have done : (wizard.answerAll resolve Memory.empty.taken answered).phase = .done := by
      decide +kernel
    have collected : (wizard.answerAll resolve Memory.empty.taken answered).outcome? =
        some ⟨"Model", ⟨"App", "PostDTO"⟩, .empty, true⟩ := by decide +kernel
    have count : (bytes answered).flatten.length = 28 := by decide +kernel
    obtain ⟨outcome, ended, result, _⟩ := (runs _ _ _ _ divided readAnswered).1 done
    obtain rfl := Option.some.inj (ended.symm.trans collected)
    rw [count] at result
    exact result.trans (congrArg (Session.mk _ · 28) told)
  · have divided : inputLines (input (bytes asked ++ [[0xFF]])).toList =
        bytes asked ++ [[0xFF]] := by decide +kernel
    have count : (bytes asked ++ [[0xFF]]).flatten.length = 25 := by decide +kernel
    have result := ((runs _ _ _ _ divided readAsked).2 asks).1 _ _ rfl (by decide +kernel)
    rw [count] at result
    exact result.trans (congrArg (Session.mk _ · 25) toldAsked)
  · have divided : inputLines (input (bytes asked)).toList = bytes asked ++ [] := by
      decide +kernel
    have count : (input (bytes asked)).toList.length = 24 := by decide +kernel
    have result := ((runs _ _ _ _ divided readAsked).2 asks).2 rfl
    rw [count] at result
    exact result.trans (congrArg (Session.mk _ · 24) toldAsked)

end Wizard

end DtoScaffold
