import Visa.Proofs.Cut
import Visa.Report

namespace Visa

/-! Records do not influence each other: the report of two texts in a row is the report of the
first and, behind it, the report of the second. -/

/-- The same account of a record that stands behind `count` others. -/
def Skipped.behind (count : Nat) (skipped : Skipped) : Skipped :=
  { skipped with index := count + skipped.index }

namespace Report

/-- Two reports in a row; the positions in the second go on where those of the first end. -/
def followedBy (first second : Report) : Report where
  rules := first.rules ++ second.rules
  skipped := first.skipped ++
    second.skipped.map (Skipped.behind (first.rules.length + first.skipped.length))

/-! ## One entry for each record -/

theorem skip?_add (record : List Char) (index count : Nat) :
    skip? (record, count + index) = (skip? (record, index)).map (Skipped.behind count) := by
  unfold skip?
  cases Record.read record <;> rfl

theorem filterMap_skip?_zipIdx (records : List (List Char)) (count : Nat) :
    (records.zipIdx count).filterMap skip? =
      (records.zipIdx.filterMap skip?).map (Skipped.behind count) := by
  rw [List.zipIdx_eq_map_add, List.filterMap_map, List.map_filterMap]
  congr 1
  funext entry
  exact skip?_add entry.1 entry.2 count

theorem length_filterMap_skip? (records : List (List Char)) (count : Nat) :
    (records.filterMap fun record => (Record.read record).toOption).length +
      ((records.zipIdx count).filterMap skip?).length = records.length := by
  induction records generalizing count with
  | nil => rfl
  | cons record rest ih =>
      have later := ih (count + 1)
      cases outcome : Record.read record with
      | error reason =>
          have dropped : (Record.read record).toOption = none := by rw [outcome]; rfl
          have counted : skip? (record, count) =
              some ⟨count, reason, String.ofList (snippet record)⟩ := by
            rw [skip?, outcome]
          simp only [List.zipIdx_cons, List.filterMap_cons, dropped, counted, List.length_cons]
          omega
      | ok rule =>
          have kept : (Record.read record).toOption = some rule := by rw [outcome]; rfl
          have passed : skip? (record, count) = none := by rw [skip?, outcome]
          simp only [List.zipIdx_cons, List.filterMap_cons, kept, passed, List.length_cons]
          omega

theorem length_ofCut (cut : Record.Cut) :
    (ofCut cut).rules.length + (ofCut cut).skipped.length =
      cut.records.length + cut.tail.toList.length := by
  have records := length_filterMap_skip? cut.records 0
  simp only [ofCut, List.length_append, List.length_map]
  omega

/-! ## Texts in a row -/

theorem ofCut_append (first later : List (List Char)) (tail : Option (List Char)) :
    ofCut ⟨first ++ later, tail⟩ = (ofCut ⟨first, none⟩).followedBy (ofCut ⟨later, tail⟩) := by
  have count := length_ofCut ⟨first, none⟩
  simp only [Option.toList_none, List.length_nil, Nat.add_zero] at count
  unfold followedBy
  rw [count]
  simp only [ofCut, List.filterMap_append, List.zipIdx_append,
    filterMap_skip?_zipIdx later first.length, Option.toList_none, List.map_nil, List.append_nil,
    List.map_append, List.map_map, List.length_append, Nat.zero_add, List.append_assoc]
  congr 3

theorem empty_followedBy (report : Report) : empty.followedBy report = report := by
  obtain ⟨rules, skipped⟩ := report
  have same : Skipped.behind 0 = id := by
    funext entry
    simp [Skipped.behind]
  simp [followedBy, empty, same]

theorem ofText_of_not_mem {text : List Char} (other : '{' ∉ text) : ofText text = empty := by
  rw [ofText, Record.ofText_eq_of_not_mem other]
  rfl

theorem ofText_append {first : List Char} (second : List Char)
    (closed : (Record.Cut.ofText first).tail = none) :
    ofText (first ++ second) = (ofText first).followedBy (ofText second) := by
  rw [ofText, Record.ofText_append second closed, ofCut_append, ofText, ofText, ← closed]

theorem ofText_append_of_not_mem {between : List Char} (second : List Char)
    (other : '{' ∉ between) : ofText (between ++ second) = ofText second := by
  rw [ofText_append second (by rw [Record.ofText_eq_of_not_mem other]), ofText_of_not_mem other,
    empty_followedBy]

theorem ofText_flatten_append {pieces : List (List Char)} (last : List Char)
    (closed : ∀ piece ∈ pieces, (Record.Cut.ofText piece).tail = none) :
    ofText (pieces.flatten ++ last) =
      pieces.foldr (fun piece report => (ofText piece).followedBy report) (ofText last) := by
  induction pieces with
  | nil => rfl
  | cons piece rest ih =>
      rw [List.flatten_cons, List.append_assoc, ofText_append _ (closed piece (by simp)),
        ih (fun other member => closed other (by simp [member])), List.foldr_cons]

/-- Behind a text that ends between records a text is read as it is on its own. What stands in
between without an opening brace, such as a separator, a bracket, a mark or a closing brace too
many, has no effect, and a row of records is reported on one by one. -/
theorem ofText_append_of_closed {first : List Char} (second : List Char)
    (closed : (Record.Cut.ofText first).tail = none) :
    ofText (first ++ second) = (ofText first).followedBy (ofText second) ∧
      (∀ between, '{' ∉ between →
        ofText (first ++ (between ++ second)) = ofText (first ++ second)) ∧
      ∀ pieces : List (List Char),
        (∀ piece ∈ pieces, (Record.Cut.ofText piece).tail = none) →
        ofText (pieces.flatten ++ second) =
          pieces.foldr (fun piece report => (ofText piece).followedBy report) (ofText second) := by
  refine ⟨ofText_append second closed, ?_, fun pieces => ofText_flatten_append second⟩
  intro between other
  rw [ofText_append (between ++ second) closed, ofText_append_of_not_mem second other,
    ofText_append second closed]

theorem ofText_append_of_closed_open_tail :
    (Record.Cut.ofText "[\x7b\x7d \x7d".toList).tail = none ∧
      ofText ("[\x7b\x7d \x7d".toList ++ ",[ \x7b\x7b\x7d]\n".toList) =
        ⟨[], [⟨0, .missingField "destination", "\x7b\x7d"⟩,
          ⟨1, .unterminatedRecord, "\x7b\x7b\x7d"⟩]⟩ := by
  refine ⟨by decide, ?_⟩
  rw [(ofText_append_of_closed ",[ \x7b\x7b\x7d]\n".toList (by decide)).1]
  decide

end Report

end Visa
