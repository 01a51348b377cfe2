import Visa.Proofs.Thresholds

namespace Visa

/-! What an edit of the rule book does to an answer. Rules for other routes have no say in it, the
first rule that covers the trip gives it, and rules behind that one only cast doubt on it. -/

/-- The first item that is accepted stays the first when another one is taken out. -/
theorem find?_eraseIdx_of_ne {α : Type} {accepts : α → Bool} {items : List α} {index : Nat}
    (other : items.findIdx? accepts ≠ some index) :
    (items.eraseIdx index).find? accepts = items.find? accepts := by
  induction items generalizing index with
  | nil => rfl
  | cons item rest ih =>
      by_cases accepted : accepts item
      · cases index with
        | zero => exact absurd (by simp [List.findIdx?_cons, accepted]) other
        | succ index =>
            rw [List.eraseIdx_cons_succ, List.find?_cons_of_pos accepted,
              List.find?_cons_of_pos accepted]
      · rw [List.find?_cons_of_neg accepted]
        cases index with
        | zero => rw [List.eraseIdx_zero, List.tail_cons]
        | succ index =>
            have later : rest.findIdx? accepts ≠ some index := fun found =>
              other (by simp [List.findIdx?_cons, accepted, found])
            rw [List.eraseIdx_cons_succ, List.find?_cons_of_neg accepted, ih later]

namespace RuleBook

variable {book before after : RuleBook} {trip : Trip} {index : Nat}

/-! ## Candidates -/

theorem candidates_append (before after : RuleBook) (trip : Trip) :
    candidates (before ++ after) trip = before.candidates trip ++ after.candidates trip :=
  List.filter_append ..

theorem candidates_eq_nil_iff : book.candidates trip = [] ↔ ∀ rule ∈ book, ¬rule.covers trip :=
  List.filter_eq_nil_iff

theorem candidates_ne_nil_iff : book.candidates trip ≠ [] ↔ ∃ rule ∈ book, rule.covers trip := by
  rw [Ne, candidates_eq_nil_iff]
  push Not
  rfl

theorem head?_candidates_eraseIdx
    (other : book.findIdx? (fun rule => rule.covers trip) ≠ some index) :
    (candidates (book.eraseIdx index) trip).head? = (book.candidates trip).head? := by
  rw [candidates, candidates, List.head?_filter, List.head?_filter, find?_eraseIdx_of_ne other]

/-! ## Decisions -/

theorem evaluate_congr {first second : RuleBook} {trip : Trip}
    (same : first.candidates trip = second.candidates trip) :
    first.evaluate trip = second.evaluate trip := by
  rw [evaluate, evaluate, same]

theorem evaluate_of_candidates {rule : Rule} {rest : List Rule}
    (found : book.candidates trip = rule :: rest) :
    book.evaluate trip =
      .ofRule rule (if rest = [] then [] else [Decision.ambiguityWarning]) := by
  rw [evaluate, found]
  cases rest with
  | nil => rfl
  | cons second rest => rfl

/-- Apart from its warnings a decision depends on the first candidate alone. -/
theorem evaluate_withWarnings (book : RuleBook) (trip : Trip) (warnings : List String) :
    { book.evaluate trip with warnings := warnings } =
      ((book.candidates trip).head?).elim { Decision.fallback with warnings := warnings }
        fun rule => .ofRule rule warnings := by
  cases found : book.candidates trip with
  | nil => rw [evaluate, found, List.head?_nil, Option.elim_none]
  | cons rule rest =>
      rw [evaluate_of_candidates found, List.head?_cons, Option.elim_some]
      rfl

theorem evaluate_append_of_silent (silent : ∀ rule ∈ before, ¬rule.covers trip) :
    evaluate (before ++ after) trip = after.evaluate trip := by
  apply evaluate_congr
  rw [candidates_append, candidates_eq_nil_iff.mpr silent, List.nil_append]

theorem evaluate_append_of_doubtful (covered : ∃ rule ∈ before, rule.covers trip)
    (doubtful : ∃ rule ∈ after, rule.covers trip) :
    evaluate (before ++ after) trip =
      { before.evaluate trip with warnings := [Decision.ambiguityWarning] } := by
  obtain ⟨rule, rest, found⟩ := List.exists_cons_of_ne_nil (candidates_ne_nil_iff.mpr covered)
  have more : rest ++ after.candidates trip ≠ [] :=
    List.append_ne_nil_of_right_ne_nil _ (candidates_ne_nil_iff.mpr doubtful)
  have whole : candidates (before ++ after) trip = rule :: (rest ++ after.candidates trip) := by
    rw [candidates_append, found, List.cons_append]
  rw [evaluate_of_candidates whole, if_neg more, evaluate_of_candidates found]
  rfl

theorem evaluate_append_of_clear (clear : ∀ rule ∈ after, ¬rule.covers trip) :
    evaluate (before ++ after) trip = before.evaluate trip := by
  apply evaluate_congr
  rw [candidates_append, candidates_eq_nil_iff.mpr clear, List.append_nil]

theorem exists_warnings_eraseIdx
    (other : book.findIdx? (fun rule => rule.covers trip) ≠ some index) :
    ∃ warnings, evaluate (book.eraseIdx index) trip =
      { book.evaluate trip with warnings := warnings } := by
  refine ⟨(evaluate (book.eraseIdx index) trip).warnings, ?_⟩
  have same := evaluate_withWarnings (book.eraseIdx index) trip
    (evaluate (book.eraseIdx index) trip).warnings
  rwa [head?_candidates_eraseIdx other, ← evaluate_withWarnings] at same

/-- An edit of the book reaches no further than this. Books with the same rules for a route, in the
same order, answer every trip on it alike, whatever else they hold. Rules put behind a book decide
if it has none for the trip; if it has one they can only add the warning. And to take out a rule
other than the first for the trip can change nothing but the warnings. -/
theorem evaluate_edits :
    (∀ (first second : RuleBook) (route : Route), first.onRoute route = second.onRoute route →
        ∀ stay, first.evaluate ⟨route, stay⟩ = second.evaluate ⟨route, stay⟩) ∧
      (∀ (before after : RuleBook) (trip : Trip),
        ((∃ rule ∈ before, rule.covers trip) →
          ((∃ rule ∈ after, rule.covers trip) → evaluate (before ++ after) trip =
            { before.evaluate trip with warnings := [Decision.ambiguityWarning] }) ∧
          ((∀ rule ∈ after, ¬rule.covers trip) →
            evaluate (before ++ after) trip = before.evaluate trip)) ∧
        ((∀ rule ∈ before, ¬rule.covers trip) →
          evaluate (before ++ after) trip = after.evaluate trip)) ∧
      ∀ (book : RuleBook) (trip : Trip) (index : Nat),
        book.findIdx? (fun rule => rule.covers trip) ≠ some index →
          ∃ warnings, evaluate (book.eraseIdx index) trip =
            { book.evaluate trip with warnings := warnings } := by
  refine ⟨fun first second route same stay => ?_, fun before after trip => ⟨fun covered => ?_, ?_⟩,
    fun book trip index => exists_warnings_eraseIdx⟩
  · apply evaluate_congr
    rw [candidates_eq_filter_onRoute, candidates_eq_filter_onRoute, same]
  · exact ⟨evaluate_append_of_doubtful covered, evaluate_append_of_clear⟩
  · exact evaluate_append_of_silent

/-- Two rules for one route among rules for another. -/
theorem evaluate_edits_two_routes :
    let rule (destination : Country) (maxStay : UInt32) (category : Category) : Rule :=
      { destination := destination, passport := .usa, purpose := .tourism, maxStay := maxStay
        visaRequired := false, category := category, kind := .none, documents := [.passport]
        processing := 0 }
    let short := rule .japan 30 .visaFree
    let long := rule .japan 90 .electronic
    let other := rule .uk 180 .travelAuthorization
    let trip : Trip := ⟨⟨.japan, .usa, .tourism⟩, 30⟩
    (∀ stay, evaluate [other, short, long] ⟨trip.toRoute, stay⟩ =
        evaluate [short, other, other, long] ⟨trip.toRoute, stay⟩) ∧
      evaluate ([other, short] ++ [long]) trip =
        { evaluate [other, short] trip with warnings := [Decision.ambiguityWarning] } ∧
      evaluate ([other, short] ++ [other]) trip = evaluate [other, short] trip ∧
      evaluate ([other] ++ [long, short]) trip = evaluate [long, short] trip ∧
      ∃ warnings, evaluate ([other, short, long].eraseIdx 2) trip =
        { evaluate [other, short, long] trip with warnings := warnings } := by
  intro rule short long other trip
  obtain ⟨routes, joined, erased⟩ := evaluate_edits
  have covered : ∃ rule ∈ [other, short], rule.covers trip := by decide
  exact ⟨routes _ _ _ (by decide), ((joined _ _ _).1 covered).1 (by decide),
    ((joined _ _ _).1 covered).2 (by decide), (joined _ _ _).2 (by decide),
    erased _ _ _ (by decide)⟩

end RuleBook

end Visa
