import Mathlib.Data.String.Basic
import Visa.RuleBook
import Visa.Source

namespace Visa

/-! From a text to a decision: the records that answer a trip are looked at in source order, the
first of them decides, and any further one only adds a warning. -/

namespace Record

/-- The record is read as a rule for the route of the trip, with a bound that admits the stay. -/
structure Answers (trip : Trip) (record : List Char) (rule : Rule) : Prop where
  read : Record.read record = .ok rule
  destination : rule.destination = trip.destination
  passport : rule.passport = trip.passport
  purpose : rule.purpose = trip.purpose
  stay : trip.stay ≤ rule.maxStay

def Silent (trip : Trip) (records : List (List Char)) : Prop :=
  ∀ record ∈ records, ∀ rule, ¬Answers trip record rule

def answer? (trip : Trip) (record : List Char) : Option Rule :=
  (Record.read record).toOption.filter fun rule => rule.covers trip

variable {trip : Trip} {record : List Char} {records before after : List (List Char)} {rule : Rule}

theorem covers_iff : rule.covers trip ↔ rule.destination = trip.destination ∧
    rule.passport = trip.passport ∧ rule.purpose = trip.purpose ∧ trip.stay ≤ rule.maxStay := by
  obtain ⟨⟨destination, passport, purpose⟩, maxStay, _⟩ := rule
  obtain ⟨⟨_, _, _⟩, stay⟩ := trip
  simp [Rule.covers, and_assoc]

theorem answer?_eq_some_iff : answer? trip record = some rule ↔ Answers trip record rule := by
  rw [answer?, Option.filter_eq_some_iff]
  constructor
  · rintro ⟨found, covering⟩
    obtain ⟨destination, passport, purpose, stay⟩ := covers_iff.mp covering
    cases outcome : Record.read record with
    | error reason =>
        rw [outcome] at found
        contradiction
    | ok other =>
        rw [outcome] at found
        cases found
        exact ⟨outcome, destination, passport, purpose, stay⟩
  · rintro ⟨read, destination, passport, purpose, stay⟩
    rw [read]
    exact ⟨rfl, covers_iff.mpr ⟨destination, passport, purpose, stay⟩⟩

theorem answer?_eq_none_iff :
    answer? trip record = none ↔ ∀ rule, ¬Answers trip record rule := by
  simp only [← answer?_eq_some_iff, ← Option.ne_none_iff_exists', not_exists.symm, not_not]

theorem silent_iff : Silent trip records ↔ records.filterMap (answer? trip) = [] := by
  simp only [Silent, List.filterMap_eq_nil_iff, answer?_eq_none_iff]

theorem filterMap_answer? (earlier : Silent trip before) (answers : Answers trip record rule) :
    (before ++ record :: after).filterMap (answer? trip) =
      rule :: after.filterMap (answer? trip) := by
  rw [List.filterMap_append, silent_iff.mp earlier, List.nil_append, List.filterMap_cons,
    answer?_eq_some_iff.mpr answers]

theorem not_silent_append_cons (answers : Answers trip record rule) :
    ¬Silent trip (before ++ record :: after) := fun silent =>
  silent record (List.mem_append_right _ List.mem_cons_self) rule answers

end Record

open Record (Answers Silent answer?)

/-! ## The decision -/

/-- The decision that records in this order call for. -/
inductive Selected (trip : Trip) : List (List Char) → Decision → Prop
  | fallback {records : List (List Char)} (silent : Silent trip records) :
      Selected trip records .fallback
  | only {before after : List (List Char)} {record : List Char} {rule : Rule}
      (earlier : Silent trip before) (answers : Answers trip record rule)
      (later : Silent trip after) :
      Selected trip (before ++ record :: after)
        { visaRequired := rule.visaRequired
          category := rule.category
          kind := rule.kind
          documents := rule.documents
          processing := rule.processing
          warnings := [] }
  | first {before after : List (List Char)} {record : List Char} {rule : Rule}
      (earlier : Silent trip before) (answers : Answers trip record rule)
      (later : ¬Silent trip after) :
      Selected trip (before ++ record :: after)
        { visaRequired := rule.visaRequired
          category := rule.category
          kind := rule.kind
          documents := rule.documents
          processing := rule.processing
          warnings := [Decision.ambiguityWarning] }

variable {trip : Trip} {records : List (List Char)} {decision : Decision}

theorem candidates_ofCut (cut : Record.Cut) (trip : Trip) :
    RuleBook.candidates (Report.ofCut cut).rules trip =
      cut.records.filterMap (answer? trip) := by
  rw [RuleBook.candidates, Report.ofCut, List.filter_filterMap]
  rfl

theorem Selected.eq_evaluate {cut : Record.Cut} (selected : Selected trip cut.records decision) :
    decision = RuleBook.evaluate (Report.ofCut cut).rules trip := by
  rw [RuleBook.evaluate, candidates_ofCut]
  generalize cut.records = records at selected
  cases selected with
  | fallback silent => rw [Record.silent_iff.mp silent]
  | only earlier answers later =>
      rw [Record.filterMap_answer? earlier answers, Record.silent_iff.mp later]
      rfl
  | @first before after record rule earlier answers later =>
      rw [Record.filterMap_answer? earlier answers]
      cases rest : after.filterMap (answer? trip) with
      | nil => exact absurd (Record.silent_iff.mpr rest) later
      | cons second rest => rfl

theorem selected_evaluate_ofCut (cut : Record.Cut) (trip : Trip) :
    Selected trip cut.records (RuleBook.evaluate (Report.ofCut cut).rules trip) := by
  rw [RuleBook.evaluate, candidates_ofCut]
  cases found : cut.records.filterMap (answer? trip) with
  | nil => exact .fallback (Record.silent_iff.mpr found)
  | cons rule rest =>
      obtain ⟨before, record, after, records, earlier, answers, later⟩ :=
        List.filterMap_eq_cons_iff.mp found
      have silent : Silent trip before := fun other inside =>
        Record.answer?_eq_none_iff.mp (earlier other inside)
      have answering := Record.answer?_eq_some_iff.mp answers
      rw [records]
      cases rest with
      | nil => exact .only silent answering (Record.silent_iff.mpr later)
      | cons second rest =>
          refine .first silent answering fun none => ?_
          rw [Record.silent_iff.mp none] at later
          contradiction

theorem Selected.isFallback_iff (selected : Selected trip records decision) :
    decision.isFallback ↔ Silent trip records := by
  cases selected with
  | fallback silent => exact iff_of_true rfl silent
  | only _ answers _ => exact iff_of_false nofun (Record.not_silent_append_cons answers)
  | first _ answers _ =>
      refine iff_of_false ?_ (Record.not_silent_append_cons answers)
      simp [Decision.isFallback, Decision.ambiguityWarning, Decision.noRuleWarning]

namespace Decision

theorem render_of_isFallback (fallback : decision.isFallback) :
    decision.render = noRuleWarning := by
  rw [render, lines, if_pos fallback]
  rfl

/-- The two texts already differ in their first letter. -/
theorem render_ne_of_not_isFallback (other : ¬decision.isFallback) :
    decision.render ≠ noRuleWarning := by
  intro same
  have first : decision.render.toList.head? = some '-' := by
    rw [render, lines, if_neg other, List.cons_append,
      String.intercalate_cons_of_ne_nil (by simp)]
    simp
  rw [same] at first
  exact absurd first (by decide)

theorem render_eq_iff : decision.render = noRuleWarning ↔ decision.isFallback := by
  constructor
  · intro same
    by_contra other
    exact render_ne_of_not_isFallback other same
  · exact render_of_isFallback

end Decision

/-- The decision on a trip is the one that the records of the text call for, and it is taken for
the fallback, also in print, only if none of them answers the trip: a rule that says the same as
the fallback is not mistaken for it. -/
theorem RuleBook.selected_iff_evaluate_load (location : String) (text : List Char) (trip : Trip) :
    (∀ decision, Selected trip (Record.Cut.ofText text).records decision ↔
        decision = evaluate (Source.load ⟨location, .ok text⟩).rules trip) ∧
      ((evaluate (Source.load ⟨location, .ok text⟩).rules trip).isFallback ↔
        Silent trip (Record.Cut.ofText text).records) ∧
      ((evaluate (Source.load ⟨location, .ok text⟩).rules trip).render = Decision.noRuleWarning ↔
        Silent trip (Record.Cut.ofText text).records) := by
  have selected := selected_evaluate_ofCut (Record.Cut.ofText text) trip
  refine ⟨fun decision => ⟨Selected.eq_evaluate, ?_⟩, selected.isFallback_iff, ?_⟩
  · rintro rfl
    exact selected
  · rw [Decision.render_eq_iff]
    exact selected.isFallback_iff

end Visa
