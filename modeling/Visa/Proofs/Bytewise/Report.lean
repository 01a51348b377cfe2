import Visa.Proofs.Bytewise.Member
import Visa.Report

namespace Visa.Bytewise

/-! Reading a text by positions in its bytes, and that it gives the report that is read off the
characters. No slice fails on the way and no depth falls below zero, whatever the text. -/

/-- All members are looked up before the first of them is missed. -/
def read (record : List UInt8) : Except Trap (Except Fault Rule) := do
  let destination ← string .destination record
  let passport ← string .passport record
  let purpose ← string .purpose record
  let maxStay ← token Record.isCountLetter .maxStay record
  let visaRequired ← token Text.isAlphabetic .visaRequired record
  let category ← string .category record
  let kind ← string .kind record
  let processing ← token Record.isCountLetter .processing record
  let documents ← items .documents record
  return do
    let destination ← (Record.required .destination destination).map String.ofList
    let passport ← (Record.required .passport passport).map String.ofList
    let purpose ← (Record.required .purpose purpose).map String.ofList
    let maxStay ← Record.required .maxStay maxStay
    let visaRequired ← Record.required .visaRequired visaRequired
    let category ← (Record.required .category category).map String.ofList
    let kind ← (Record.required .kind kind).map String.ofList
    let processing ← Record.required .processing processing
    Record.Members.toRule ⟨destination, passport, purpose, maxStay, visaRequired, category, kind,
      documents.map String.ofList, processing⟩

def skip (report : Report) (index : Nat) (record : List UInt8) (reason : Fault) :
    Except Trap Report := do
  let skipped := ⟨index, reason, String.ofList (Report.snippet (← decode record))⟩
  return { report with skipped := report.skipped ++ [skipped] }

def enter (report : Report) (entry : List UInt8 × Nat) : Except Trap Report := do
  match ← read entry.1 with
  | .ok rule => return { report with rules := report.rules ++ [rule] }
  | .error reason => skip report entry.2 entry.1 reason

def report (text : List UInt8) : Except Trap Report := do
  let trimmed ← onText Text.trim text
  if trimmed.isEmpty then return Report.empty
  let parts ← cut trimmed
  let report ← parts.records.zipIdx.foldlM enter Report.empty
  match parts.tail with
  | none => return report
  | some tail => skip report parts.records.length tail .unterminatedRecord

theorem read_encode (record : List Char) : read (encode record) = .ok (Record.read record) := by
  simp only [read, string_encode, token_encode, items_encode, ok_bind, Record.read, Record.members,
    Record.requiredString, Record.count?, Record.boolean?, bind_assoc, pure_bind]
  rfl

theorem skip_encode (report : Report) (index : Nat) (record : List Char) (reason : Fault) :
    skip report index (encode record) reason =
      .ok { report with skipped := report.skipped ++
        [⟨index, reason, String.ofList (Report.snippet record)⟩] } := by
  simp only [skip, decode_encode, ok_bind]
  rfl

theorem enter_encode (report : Report) (record : List Char) (index : Nat) :
    enter report (encode record, index) =
      .ok ⟨report.rules ++ (Record.read record).toOption.toList,
        report.skipped ++ (Report.skip? (record, index)).toList⟩ := by
  simp only [enter, read_encode, ok_bind, Report.skip?]
  cases Record.read record with
  | ok rule => simp [Except.toOption, pure, Except.pure]
  | error reason => simp [skip_encode, Except.toOption]

theorem foldlM_enter (records : List (List Char)) (first : Nat) (report : Report) :
    ((records.map encode).zipIdx first).foldlM enter report =
      .ok ⟨report.rules ++ records.filterMap fun record => (Record.read record).toOption,
        report.skipped ++ (records.zipIdx first).filterMap Report.skip?⟩ := by
  induction records generalizing first report with
  | nil => simp [pure, Except.pure]
  | cons record rest ih =>
      rw [List.map_cons, List.zipIdx_cons, List.foldlM_cons, enter_encode, ok_bind, ih,
        List.zipIdx_cons, List.filterMap_cons, List.filterMap_cons]
      cases (Record.read record).toOption <;> cases Report.skip? (record, first) <;> simp

theorem report_encode (text : List Char) : report (encode text) = .ok (Report.ofText text) := by
  have inner : Record.Cut.ofText (Text.trim text) = Record.Cut.ofText text := by
    rw [Record.Cut.ofText, Record.body_eq, Text.trim_trim, ← Record.body_eq, Record.Cut.ofText]
  simp only [report, onText_encode, ok_bind, isEmpty_encode, cut_encode, inner, encodeCut]
  by_cases blank : Text.trim text = []
  · rw [blank, Report.ofText, Record.Cut.ofText, Record.body_eq, blank]
    rfl
  rw [if_neg (by simpa using blank)]
  have records := foldlM_enter (Record.Cut.ofText text).records 0 Report.empty
  simp only [records, ok_bind, Report.ofText, Report.ofCut]
  cases (Record.Cut.ofText text).tail with
  | none => simp [Report.empty, pure, Except.pure]
  | some tail => simp [Report.empty, skip_encode]

/-- Every text can be read by positions in its bytes: all of them are boundaries, and each depth
that is lowered is positive. The report is the one that the characters give. -/
theorem report_utf8 (text : String) :
    report (Interview.encode text) = .ok (Report.ofText text.toList) := by
  rw [← encode_toList, report_encode]

end Visa.Bytewise
