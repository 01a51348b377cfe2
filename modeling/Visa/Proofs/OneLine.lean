import Visa.Proofs.Accounting
import Visa.Proofs.Diagnosis
import Visa.Proofs.ExitStatus
import Visa.Proofs.RoundTrip
import Visa.Proofs.Snippet

namespace Visa

/-! What a lint run prints, line by line. Text from a record only gets into it quoted or as words
with spaces between them, and neither can end a line, so every line is one of the program. -/

/-! ## Texts on one line -/

namespace Text

variable {text : List Char}

/-- The text holds neither a line feed nor a carriage return. -/
def OneLine (text : List Char) : Prop := ∀ letter ∈ text, letter ≠ '\n' ∧ letter ≠ '\r'

instance : DecidablePred OneLine := fun text =>
  List.decidableBAll (fun letter => letter ≠ '\n' ∧ letter ≠ '\r') text

theorem OneLine.append {first second : List Char} (oneLineFirst : OneLine first)
    (oneLineSecond : OneLine second) : OneLine (first ++ second) :=
  List.forall_mem_append.mpr ⟨oneLineFirst, oneLineSecond⟩

theorem oneLine_append {first second : String} (oneLineFirst : OneLine first.toList)
    (oneLineSecond : OneLine second.toList) : OneLine (first ++ second).toList := by
  rw [String.toList_append]
  exact oneLineFirst.append oneLineSecond

theorem oneLine_of_solid (solid : ∀ letter ∈ text, isBlank letter = false) : OneLine text := by
  intro letter inside
  have notBlank := solid letter inside
  constructor
  · rintro rfl
    exact absurd notBlank (by decide)
  · rintro rfl
    exact absurd notBlank (by decide)

theorem oneLine_of_spaced (spaced : Spaced text) : OneLine text := by
  intro letter inside
  constructor
  · rintro rfl
    exact absurd (spaced.plain _ inside (by decide)) (by decide)
  · rintro rfl
    exact absurd (spaced.plain _ inside (by decide)) (by decide)

theorem oneLine_repr (count : Nat) : OneLine count.repr.toList := by
  rw [Nat.toList_repr]
  exact oneLine_of_solid fun letter inside =>
    isBlank_of_isDigit (Nat.isDigit_of_mem_toDigits (by decide) (by decide) inside)

theorem exists_of_mem_hexadecimal {letter : Char} {code : Nat}
    (inside : letter ∈ hexadecimal code) : ∃ digit, letter = Nat.digitChar digit := by
  induction code using Nat.strongRecOn with
  | ind code ih =>
      rw [hexadecimal] at inside
      by_cases small : code < 16
      · rw [Nat.toDigits_of_lt_base small] at inside
        exact ⟨code, List.mem_singleton.mp inside⟩
      · rw [Nat.toDigits_of_base_le (by decide) (Nat.not_lt.mp small)] at inside
        rcases List.mem_append.mp inside with front | last
        · exact ih (code / 16) (by omega) front
        · exact ⟨code % 16, List.mem_singleton.mp last⟩

theorem oneLine_hexadecimal (code : Nat) : OneLine (hexadecimal code) := by
  intro letter inside
  obtain ⟨digit, rfl⟩ := exists_of_mem_hexadecimal inside
  exact ⟨Nat.digitChar_ne '\n' (by decide), Nat.digitChar_ne '\r' (by decide)⟩

theorem oneLine_escaped (letter : Char) : OneLine (escaped letter) := by
  unfold escaped
  split
  · decide
  split
  · decide
  split
  · decide
  split
  · decide
  split
  · decide
  split
  · decide
  split
  · exact ((show OneLine ['\\', 'u', '\x7b'] by decide).append (oneLine_hexadecimal _)).append
      (by decide)
  · rename_i notReturn notFeed _ _
    exact List.forall_mem_singleton.mpr ⟨notFeed, notReturn⟩

theorem oneLine_quoted (text : String) : OneLine (quoted text).toList := by
  rw [quoted, String.toList_ofList]
  refine (OneLine.append (by decide) ?_).append (by decide)
  intro letter inside
  obtain ⟨source, _, here⟩ := List.mem_flatMap.mp inside
  exact oneLine_escaped source letter here

end Text

open Text (OneLine)

/-! ## Faults of records -/

namespace Record

variable {record text : List Char} {fault : Fault}

theorem oneLine_name (field : Field) : OneLine field.name.toList := by cases field <;> decide

theorem oneLine_of_unknown? {α : Type} [Vocabulary α]
    (subject : OneLine (Vocabulary.subject α).toList) (unknown : unknown? α text = some fault) :
    OneLine fault.message.toList := by
  simp only [unknown?, Option.ite_none_left_eq_some, Option.some.injEq] at unknown
  obtain ⟨_, rfl⟩ := unknown
  have opening : OneLine ("Unknown " ++ Vocabulary.subject α).toList :=
    Text.oneLine_append (by decide) subject
  exact Text.oneLine_append (Text.oneLine_append opening (by decide)) (Text.oneLine_quoted _)

theorem oneLine_of_uncounted? {field : Field} (uncounted : uncounted? field text = some fault) :
    OneLine fault.message.toList := by
  simp only [uncounted?, Option.ite_none_left_eq_some, Option.some.injEq] at uncounted
  obtain ⟨_, rfl⟩ := uncounted
  have opening : OneLine ("Invalid number for " ++ field.name).toList :=
    Text.oneLine_append (by decide) (oneLine_name field)
  exact Text.oneLine_append (Text.oneLine_append opening (by decide)) (Text.oneLine_quoted _)

theorem oneLine_of_misread? {field : Field} (misread : misread? record field = some fault) :
    OneLine fault.message.toList := by
  cases field with
  | destination | passport | purpose | category | kind =>
      obtain ⟨text, _, unknown⟩ := Option.bind_eq_some_iff.mp misread
      exact oneLine_of_unknown? (by decide) unknown
  | documents =>
      obtain ⟨text, _, unknown⟩ := List.exists_of_findSome?_eq_some misread
      exact oneLine_of_unknown? (by decide) unknown
  | maxStay | processing =>
      obtain ⟨text, _, uncounted⟩ := Option.bind_eq_some_iff.mp misread
      exact oneLine_of_uncounted? uncounted
  | visaRequired => contradiction

theorem oneLine_of_read (failed : read record = .error fault) : OneLine fault.message.toList := by
  by_cases whole : ∀ field ∈ Field.required, field.isFound record
  · obtain ⟨field, _, misread⟩ :=
      List.exists_of_findSome?_eq_some ((error_iff_of_found whole).mp failed)
    exact oneLine_of_misread? misread
  · rw [← required_find?_eq_none_iff] at whole
    obtain ⟨field, first⟩ := Option.ne_none_iff_exists'.mp whole
    cases (read_eq_missingField_iff.mpr first).symm.trans failed
    exact Text.oneLine_append (by decide) (oneLine_name field)

end Record

/-! ## Entries -/

namespace Report

variable {entry : Skipped}

theorem oneLine_snippet (record : List Char) : OneLine (snippet record) :=
  Text.oneLine_of_spaced (spaced_snippet record)

theorem oneLine_of_mem_skipped {text : List Char} (listed : entry ∈ (ofText text).skipped) :
    OneLine entry.reason.message.toList ∧ OneLine entry.snippet.toList := by
  rcases List.mem_append.mp listed with inside | atEnd
  · obtain ⟨record, _, failed, shown⟩ := mem_filterMap_skip?_iff.mp inside
    rw [shown, String.toList_ofList]
    exact ⟨Record.oneLine_of_read failed, oneLine_snippet record⟩
  · obtain ⟨tail, _, rfl⟩ := mem_tailEntries_iff.mp atEnd
    rw [String.toList_ofList]
    have message : OneLine Fault.unterminatedRecord.message.toList := by decide
    exact ⟨message, oneLine_snippet tail⟩

theorem oneLine_skipEvent {source : String} (named : OneLine source.toList)
    (reason : OneLine entry.reason.message.toList) (shown : OneLine entry.snippet.toList) :
    OneLine (skipEvent source entry).message.toList := by
  have numbered : OneLine ("Skipping rule #" ++ entry.index.repr).toList :=
    Text.oneLine_append (by decide) (Text.oneLine_repr _)
  have placed : OneLine ("Skipping rule #" ++ entry.index.repr ++ " in " ++ source).toList :=
    Text.oneLine_append (Text.oneLine_append numbered (by decide)) named
  have explained : OneLine ("Skipping rule #" ++ entry.index.repr ++ " in " ++ source ++ ": " ++
      entry.reason.message).toList :=
    Text.oneLine_append (Text.oneLine_append placed (by decide)) reason
  exact Text.oneLine_append
    (Text.oneLine_append (Text.oneLine_append explained (by decide)) shown) (by decide)

end Report

/-! ## Lines of a lint run -/

namespace Run

variable {line : CommandLine} {world : World} {path : String} {text : List Char}

theorem linesOf_flatMap {lines : List (List Char)} (oneLine : ∀ line ∈ lines, OneLine line) :
    linesOf (lines.flatMap fun line => line ++ ['\n']) = lines.map String.ofList := by
  have pieces : (lines.flatMap fun line => line ++ ['\n']).splitOnP (· == '\n') =
      lines ++ [[]] := by
    induction lines with
    | nil => rfl
    | cons line rest ih =>
        obtain ⟨first, later⟩ := List.forall_mem_cons.mp oneLine
        have kept : ∀ letter ∈ line, (letter == '\n') = false := fun letter inside =>
          beq_eq_false_iff_ne.mpr (first letter inside).1
        rw [List.flatMap_cons, List.append_assoc, List.singleton_append,
          List.splitOnP_append_cons_of_forall_mem kept '\n' (by decide), ih later,
          List.cons_append]
  rw [linesOf, pieces, List.map_append, List.map_singleton]
  simp

/-- The lines of a lint run: how many rules there are and in which file, then two lines for each
record that gave none. -/
def lintLines (path : String) (report : Report) : List String :=
  (report.rules.length.repr ++ " rule(s) parsed from " ++ path) ::
    report.skipped.flatMap fun entry =>
      ["  record #" ++ entry.index.repr ++ ": " ++ entry.reason.message, "    " ++ entry.snippet]

theorem length_lintLines (path : String) (report : Report) :
    (lintLines path report).length = 1 + 2 * report.skipped.length := by
  rw [lintLines, List.length_cons, List.length_flatMap]
  simp
  omega

theorem lintText_eq (path : String) (report : Report) :
    lintText path report = String.join ((lintLines path report).map (· ++ "\n")) := by
  have entries : report.skipped.map skippedText = report.skipped.map fun entry =>
      String.join (["  record #" ++ entry.index.repr ++ ": " ++ entry.reason.message,
        "    " ++ entry.snippet].map (· ++ "\n")) := by
    apply List.map_congr_left
    intro entry _
    apply String.toList_injective
    simp only [skippedText, List.map_cons, List.map_nil, String.toList_append, String.toList_join,
      List.flatMap_cons, List.flatMap_nil, List.append_assoc, String.reduceToList,
      List.cons_append, List.nil_append, List.append_nil]
  rw [lintText, lintLines, List.map_cons, String.join_cons, entries, List.map_flatMap]
  congr 1
  apply String.toList_injective
  simp only [String.toList_join, List.flatMap_map, List.flatMap_assoc]

theorem oneLine_lintLines (named : OneLine path.toList) :
    ∀ shown ∈ lintLines path (.ofText text), OneLine shown.toList := by
  have summary :
      OneLine ((Report.ofText text).rules.length.repr ++ " rule(s) parsed from ").toList :=
    Text.oneLine_append (Text.oneLine_repr _) (by decide)
  refine List.forall_mem_cons.mpr ⟨Text.oneLine_append summary named, ?_⟩
  intro shown listed
  obtain ⟨entry, inside, here⟩ := List.mem_flatMap.mp listed
  obtain ⟨reason, snippet⟩ := Report.oneLine_of_mem_skipped inside
  have numbered : OneLine ("  record #" ++ entry.index.repr ++ ": ").toList :=
    Text.oneLine_append (Text.oneLine_append (by decide) (Text.oneLine_repr _)) (by decide)
  simp only [List.mem_cons, List.not_mem_nil, or_false] at here
  rcases here with rfl | rfl
  · exact Text.oneLine_append numbered reason
  · exact Text.oneLine_append (by decide) snippet

theorem linesOf_lintText (named : OneLine path.toList) :
    linesOf (lintText path (.ofText text)).toList = lintLines path (.ofText text) := by
  have oneLine : ∀ shown ∈ (lintLines path (.ofText text)).map String.toList, OneLine shown :=
    List.forall_mem_map.mpr (oneLine_lintLines named)
  have split := linesOf_flatMap oneLine
  rw [lintText_eq, String.toList_join, List.flatMap_map]
  rw [List.flatMap_map, List.map_map] at split
  simpa [Function.comp_def] using split

/-- A lint run on a text prints the number of its rules and the path in one line, and in order the
index and the reason of each skipped record in a second, its snippet in a third. None of these
lines can be broken by the text, and neither can the warning that is logged for the record. -/
theorem lines_of_lint (asked : line.command = .lint) (place : rulesFile? line world = some path)
    (held : world.text path = .ok text) (named : OneLine path.toList) :
    linesOf (run line world).1.standardOutput.toList =
        (((Report.ofText text).rules.length.repr ++ " rule(s) parsed from " ++ path) ::
          (Report.ofText text).skipped.flatMap fun entry =>
            ["  record #" ++ entry.index.repr ++ ": " ++ entry.reason.message,
              "    " ++ entry.snippet]) ∧
      (linesOf (run line world).1.standardOutput.toList).length =
        1 + 2 * (Report.ofText text).skipped.length ∧
      (run line world).1.standardOutput =
        String.join ((linesOf (run line world).1.standardOutput.toList).map (· ++ "\n")) ∧
      (∀ shown ∈ linesOf (run line world).1.standardOutput.toList, OneLine shown.toList) ∧
      ∀ entry ∈ (Report.ofText text).skipped,
        OneLine entry.reason.message.toList ∧ OneLine entry.snippet.toList ∧
          ∀ source : String, OneLine source.toList →
            OneLine (Report.skipEvent source entry).message.toList := by
  obtain ⟨⟨settings, logger⟩, ready, rfl⟩ := Option.map_eq_some_iff.mp place
  have output : (run line world).1.standardOutput =
      lintText (line.rulesPath settings) (.ofText text) := by
    rw [run, runWith_of_ready ready, asked]
    simp [command, lint, source, Source.load, held, Outcome.standardOutput]
  rw [output, linesOf_lintText named]
  refine ⟨rfl, length_lintLines _ _, lintText_eq _ _, oneLine_lintLines named, ?_⟩
  intro entry listed
  obtain ⟨reason, snippet⟩ := Report.oneLine_of_mem_skipped listed
  exact ⟨reason, snippet, fun source named => Report.oneLine_skipEvent named reason snippet⟩

/-- A destination over three lines, the last of which looks like an entry: it is shown in one. -/
theorem lines_of_lint_forged_entry :
    let line : CommandLine :=
      { rules := some "rules.txt", config := none, logFormat := none, verbose := false
        command := .lint }
    let empty : World :=
      ⟨fun _ => .error "No such file or directory (os error 2)", fun _ => none, []⟩
    let text := "\x7b\"destination\": \"UK\r\n\n  record #7: forged\", " ++
      "\"passportCountry\":\n\"USA\", \"purpose\": \"STUDY\", \"maxStayDays\": 5, " ++
      "\"visaRequired\": true, \"visaCategory\": \"ETA\", \"visaType\": \"NONE\", " ++
      "\"processingDays\": 1\x7d"
    let world := empty.saving "rules.txt" text
    rulesFile? line world = some "rules.txt" ∧ OneLine "rules.txt".toList ∧
      linesOf (run line world).1.standardOutput.toList =
        ["0 rule(s) parsed from rules.txt",
          "  record #0: Unknown country token: \"UK\\r\\n\\n  record #7: forged\"",
          "    \x7b\"destination\": \"UK record #7: forged\", " ++
            "\"passportCountry\": \"USA\", \"purpose\": \"ST..."] ∧
      ∀ shown ∈ linesOf (run line world).1.standardOutput.toList, OneLine shown.toList := by
  intro line empty text world
  have place : rulesFile? line world = some "rules.txt" := rfl
  have named : OneLine "rules.txt".toList := by decide
  have report : Report.ofText text.toList = ⟨[], [⟨0,
      .unknownToken "country" "UK\r\n\n  record #7: forged",
      "\x7b\"destination\": \"UK record #7: forged\", " ++
        "\"passportCountry\": \"USA\", \"purpose\": \"ST..."⟩]⟩ := by
    simp only [text, String.toList_append, String.reduceToList]
    decide +kernel
  obtain ⟨lines, _, _, oneLine, _⟩ :=
    lines_of_lint rfl place (World.text_saving empty "rules.txt" text) named
  refine ⟨place, named, ?_, oneLine⟩
  rw [lines, report]
  decide +kernel

end Run

end Visa
