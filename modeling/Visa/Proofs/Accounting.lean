import Visa.Proofs.Concatenation
import Visa.Proofs.Required
import Visa.Source

namespace Visa

/-! Every record of a text is accounted for: it gave a rule, or there is an entry for it among the
skipped ones, under its own position. -/

open Outcome (FailsWith)

/-! ## Faults of records -/

namespace Record

/-- A fault in what a record says, as opposed to one in where it ends. -/
def IsContentFault (reason : Fault) : Prop := reason ≠ .unterminatedRecord

theorem failsWith_read (record : List Char) : FailsWith IsContentFault (read record) :=
  ((demands_members record).failsWith.mono fun _ ⟨_, missing⟩ => missing ▸ nofun).bind fun found =>
    (failsWith_toRule found).mono fun _ misread => by cases misread <;> exact nofun

end Record

/-! ## Entries and their records -/

namespace Report

variable {records : List (List Char)} {entry : Skipped}

theorem skip?_eq_some_iff {record : List Char} {index : Nat} :
    skip? (record, index) = some entry ↔
      entry.index = index ∧ Record.read record = .error entry.reason ∧
        entry.snippet = String.ofList (snippet record) := by
  obtain ⟨position, reason, text⟩ := entry
  cases outcome : Record.read record with
  | ok rule => simp [skip?, outcome]
  | error other =>
      simp only [skip?, outcome, Option.some.injEq, Skipped.mk.injEq, Except.error.injEq,
        eq_comm]

theorem mem_filterMap_skip?_iff :
    entry ∈ records.zipIdx.filterMap skip? ↔
      ∃ record, records[entry.index]? = some record ∧
        Record.read record = .error entry.reason ∧
        entry.snippet = String.ofList (snippet record) := by
  rw [List.mem_filterMap]
  constructor
  · rintro ⟨⟨record, index⟩, inside, found⟩
    obtain ⟨rfl, failed, cut⟩ := skip?_eq_some_iff.mp found
    exact ⟨record, List.mem_zipIdx_iff_getElem?.mp inside, failed, cut⟩
  · rintro ⟨record, present, failed, cut⟩
    exact ⟨(record, entry.index), List.mem_zipIdx_iff_getElem?.mpr present,
      skip?_eq_some_iff.mpr ⟨rfl, failed, cut⟩⟩

theorem index_lt_of_mem (inside : entry ∈ records.zipIdx.filterMap skip?) :
    entry.index < records.length := by
  obtain ⟨record, present, _⟩ := mem_filterMap_skip?_iff.mp inside
  exact (List.getElem?_eq_some_iff.mp present).1

theorem index_filterMap_skip?_sublist (records : List (List Char)) (count : Nat) :
    (((records.zipIdx count).filterMap skip?).map Skipped.index).Sublist
      (List.range' count records.length) := by
  induction records generalizing count with
  | nil => exact List.Sublist.slnil
  | cons record rest ih =>
      rw [List.zipIdx_cons, List.filterMap_cons, List.length_cons, List.range'_succ]
      cases found : skip? (record, count) with
      | none => exact .cons _ (ih (count + 1))
      | some entry =>
          obtain ⟨rfl, _⟩ := skip?_eq_some_iff.mp found
          exact .cons_cons _ (ih (entry.index + 1))

/-! ## The account -/

/-- What a report has to say about the records and the tail that a text was cut into. The entries
for records are those of the records that cannot be read, with the reason and the snippet of that
record, and only a tail has an entry of its own behind them. -/
structure Accounts (cut : Record.Cut) (report : Report) : Prop where
  total : report.rules.length + report.skipped.length =
    cut.records.length + if cut.tail.isSome then 1 else 0
  increasing : (report.skipped.map Skipped.index).Pairwise (· < ·)
  bounded : ∀ entry ∈ report.skipped,
    entry.index < cut.records.length + if cut.tail.isSome then 1 else 0
  kept : List.Forall₂ (fun record rule => Record.read record = .ok rule)
    ((cut.records.zipIdx.filter fun placed =>
      placed.2 ∉ report.skipped.map Skipped.index).map Prod.fst) report.rules
  dropped : ∀ (entry : Skipped) (record : List Char), cut.records[entry.index]? = some record →
    (entry ∈ report.skipped ↔ Record.read record = .error entry.reason ∧
      entry.snippet = String.ofList (snippet record))
  unterminated : (∃ entry ∈ report.skipped, entry.reason = .unterminatedRecord) ↔ cut.tail.isSome
  last : ∀ tail, cut.tail = some tail → ∃ earlier, report.skipped = earlier ++
      [⟨cut.records.length, .unterminatedRecord, String.ofList (snippet tail)⟩] ∧
    ∀ entry ∈ earlier, entry.reason ≠ .unterminatedRecord

theorem mem_tailEntries_iff {cut : Record.Cut} :
    (entry ∈ cut.tail.toList.map fun tail =>
        (⟨cut.records.length, .unterminatedRecord, String.ofList (snippet tail)⟩ : Skipped)) ↔
      ∃ tail, cut.tail = some tail ∧
        entry = ⟨cut.records.length, .unterminatedRecord, String.ofList (snippet tail)⟩ := by
  simp [eq_comm]

theorem reason_ne_of_mem (inside : entry ∈ records.zipIdx.filterMap skip?) :
    entry.reason ≠ .unterminatedRecord := by
  obtain ⟨record, _, failed, _⟩ := mem_filterMap_skip?_iff.mp inside
  exact Record.failsWith_read record entry.reason failed

theorem mem_skipped_ofCut_iff {cut : Record.Cut} {record : List Char}
    (present : cut.records[entry.index]? = some record) :
    entry ∈ (ofCut cut).skipped ↔ Record.read record = .error entry.reason ∧
      entry.snippet = String.ofList (snippet record) := by
  have before : entry.index < cut.records.length := (List.getElem?_eq_some_iff.mp present).1
  rw [ofCut, List.mem_append, mem_filterMap_skip?_iff, mem_tailEntries_iff]
  constructor
  · rintro (⟨other, same, known⟩ | ⟨tail, _, rfl⟩)
    · cases present.symm.trans same
      exact known
    · exact absurd before (Nat.lt_irrefl _)
  · exact fun known => .inl ⟨record, present, known⟩

theorem index_mem_skipped_iff {cut : Record.Cut} {record : List Char} {index : Nat}
    (present : cut.records[index]? = some record) :
    index ∈ (ofCut cut).skipped.map Skipped.index ↔ (Record.read record).toOption = none := by
  constructor
  · intro listed
    obtain ⟨entry, inside, rfl⟩ := List.mem_map.mp listed
    rw [((mem_skipped_ofCut_iff present).mp inside).1]
    rfl
  · intro failed
    cases outcome : Record.read record with
    | ok rule =>
        rw [outcome] at failed
        contradiction
    | error reason =>
        exact List.mem_map.mpr ⟨⟨index, reason, String.ofList (snippet record)⟩,
          (mem_skipped_ofCut_iff present).mpr ⟨outcome, rfl⟩, rfl⟩

theorem forall₂_read_filterMap (records : List (List Char)) :
    List.Forall₂ (fun record rule => Record.read record = .ok rule)
      (records.filter fun record => (Record.read record).toOption.isSome)
      (records.filterMap fun record => (Record.read record).toOption) := by
  induction records with
  | nil => exact .nil
  | cons record rest ih =>
      cases outcome : Record.read record with
      | ok rule => simpa [outcome, Except.toOption] using ih
      | error reason => simpa [outcome, Except.toOption] using ih

theorem filter_not_skipped (cut : Record.Cut) :
    ((cut.records.zipIdx.filter fun placed =>
        placed.2 ∉ (ofCut cut).skipped.map Skipped.index).map Prod.fst) =
      cut.records.filter fun record => (Record.read record).toOption.isSome := by
  have same : (cut.records.zipIdx.filter fun placed =>
        placed.2 ∉ (ofCut cut).skipped.map Skipped.index) =
      cut.records.zipIdx.filter
        ((fun record => (Record.read record).toOption.isSome) ∘ Prod.fst) := by
    apply List.filter_congr
    rintro ⟨record, index⟩ inside
    have present := List.mem_zipIdx_iff_getElem?.mp inside
    rw [decide_not, Bool.eq_iff_iff, Bool.not_eq_true', decide_eq_false_iff_not,
      index_mem_skipped_iff present, ← ne_eq, ← Option.isSome_iff_ne_none, Function.comp_apply]
  rw [same, ← List.filter_map, List.zipIdx_map_fst]

theorem accounts_ofCut (cut : Record.Cut) : Accounts cut (ofCut cut) where
  total := by
    rw [length_ofCut]
    cases cut.tail <;> rfl
  increasing := by
    have sublist := index_filterMap_skip?_sublist cut.records 0
    have ordered := List.Pairwise.sublist sublist (List.pairwise_lt_range' (s := 0))
    rw [ofCut, List.map_append, List.pairwise_append]
    refine ⟨ordered, ?_, ?_⟩
    · cases cut.tail <;> simp
    · intro first firstListed second secondListed
      obtain ⟨entry, inside, rfl⟩ := List.mem_map.mp firstListed
      obtain ⟨other, atEnd, rfl⟩ := List.mem_map.mp secondListed
      obtain ⟨_, _, rfl⟩ := mem_tailEntries_iff.mp atEnd
      exact index_lt_of_mem inside
  bounded := by
    intro entry listed
    rcases List.mem_append.mp listed with inside | atEnd
    · exact Nat.lt_add_right _ (index_lt_of_mem inside)
    · obtain ⟨tail, found, rfl⟩ := mem_tailEntries_iff.mp atEnd
      simp [found]
  kept := by
    rw [filter_not_skipped]
    exact forall₂_read_filterMap cut.records
  dropped _ _ := mem_skipped_ofCut_iff
  unterminated := by
    constructor
    · rintro ⟨entry, listed, reason⟩
      rcases List.mem_append.mp listed with inside | atEnd
      · exact absurd reason (reason_ne_of_mem inside)
      · obtain ⟨tail, found, _⟩ := mem_tailEntries_iff.mp atEnd
        rw [found]
        rfl
    · intro ended
      obtain ⟨tail, found⟩ := Option.isSome_iff_exists.mp ended
      exact ⟨_, List.mem_append_right _ (mem_tailEntries_iff.mpr ⟨tail, found, rfl⟩), rfl⟩
  last tail found := by
    refine ⟨cut.records.zipIdx.filterMap skip?, ?_, fun entry => reason_ne_of_mem⟩
    rw [ofCut, found]
    rfl

end Report

/-! ## What is logged -/

namespace Source

variable (location : String)

theorem filter_warn_events (text : List Char) :
    ((⟨location, .ok text⟩ : Source).events.filter fun event => event.level = .warn) =
      (Report.ofText text).skipped.map (Report.skipEvent location) := by
  have warnings : ((Report.ofText text).skipped.map (Report.skipEvent location)).filter
      (fun event => event.level = .warn) =
        (Report.ofText text).skipped.map (Report.skipEvent location) := by
    apply List.filter_eq_self.mpr
    intro event listed
    obtain ⟨entry, _, rfl⟩ := List.mem_map.mp listed
    rfl
  by_cases blank : Text.allBlank text
  · have nothing : '{' ∉ text := fun opening => Record.not_allBlank_of_mem opening blank
    simp only [events, Report.events, if_pos blank, Report.ofText_of_not_mem nothing]
    rfl
  · simp only [events, Report.events, if_neg blank, List.filter_append, warnings]
    simp [loadedEvent]

/-- Loading a text accounts for all that the text is cut into, and each skipped record is warned
about once, in order. A source that cannot be read gives nothing but one error. -/
theorem load_accounts (text : List Char) (reason : String) :
    Report.Accounts (Record.Cut.ofText text) (Report.ofText text) ∧
      load ⟨location, .ok text⟩ = Report.ofText text ∧
      ((⟨location, .ok text⟩ : Source).events.filter fun event => event.level = .warn) =
        (Report.ofText text).skipped.map (fun entry =>
          ⟨.warn, .reader, "Skipping rule #" ++ entry.index.repr ++ " in " ++ location ++ ": " ++
            entry.reason.message ++ " (" ++ entry.snippet ++ ")"⟩) ∧
      load ⟨location, .error reason⟩ = ⟨[], []⟩ ∧
      ((⟨location, .error reason⟩ : Source).events.filter fun event => event.level = .warn) = [] ∧
      ((⟨location, .error reason⟩ : Source).events.filter fun event =>
        event.level = .error).length = 1 :=
  ⟨Report.accounts_ofCut _, rfl, filter_warn_events location text, rfl, rfl, rfl⟩

end Source

end Visa
