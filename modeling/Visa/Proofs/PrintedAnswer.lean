import Visa.Proofs.Capital
import Visa.Proofs.Pieces
import Visa.Proofs.Thresholds

namespace Visa

/-! What the printed answer tells. Every line of it is a label with a value, and no value holds a
letter that ends it early, so the decision can be read back from the text. That takes warnings that
keep to one line and do not look like several; those of an evaluation do. -/

namespace Decision

/-! ## Values behind the labels -/

/-- The value that each line of an answer shows behind its label. -/
structure Shown where
  required : String
  category : String
  kind : String
  documents : String
  processing : String
  warnings : Option String

namespace Shown

variable {shown other : Shown}

def lines (shown : Shown) : List String :=
  ["--- VISA DECISION ---", "Visa Required: " ++ shown.required,
    "Visa Category: " ++ shown.category, "Visa Type: " ++ shown.kind,
    "Documents: [" ++ shown.documents ++ "]", "Processing Days: " ++ shown.processing] ++
  shown.warnings.toList.map fun warnings => "Warnings: " ++ warnings

theorem eq_of_lines (same : shown.lines = other.lines) : shown = other := by
  obtain ⟨required, category, kind, documents, processing, warnings⟩ := shown
  obtain ⟨required', category', kind', documents', processing', warnings'⟩ := other
  simp only [lines, List.cons_append, List.nil_append, List.cons.injEq, String.append_right_inj,
    String.append_left_inj, true_and] at same
  obtain ⟨rfl, rfl, rfl, rfl, rfl, last⟩ := same
  cases warnings <;> cases warnings' <;> simp_all [String.append_right_inj]

/-- Every value keeps to its line. -/
structure OneLine (shown : Shown) : Prop where
  required : '\n' ∉ shown.required.toList
  category : '\n' ∉ shown.category.toList
  kind : '\n' ∉ shown.kind.toList
  documents : '\n' ∉ shown.documents.toList
  processing : '\n' ∉ shown.processing.toList
  warnings : ∀ warnings ∈ shown.warnings, '\n' ∉ warnings.toList

theorem OneLine.not_mem_line (oneLine : shown.OneLine) :
    ∀ line ∈ shown.lines, '\n' ∉ line.toList := by
  obtain ⟨required, category, kind, documents, processing, warnings⟩ := oneLine
  intro line listed
  simp only [lines, List.cons_append, List.nil_append, List.mem_cons, List.mem_map,
    Option.mem_toList] at listed
  rcases listed with rfl | rfl | rfl | rfl | rfl | rfl | ⟨text, found, rfl⟩
  · decide
  · simp [required]
  · simp [category]
  · simp [kind]
  · simp [documents]
  · simp [processing]
  · simp [warnings text found]

theorem OneLine.eq_of_intercalate (oneLine : shown.OneLine) (oneLineOther : other.OneLine)
    (same : "\n".intercalate shown.lines = "\n".intercalate other.lines) : shown = other :=
  eq_of_lines (Text.eq_of_intercalate_strings rfl oneLine.not_mem_line oneLineOther.not_mem_line
    (by simp [lines]) same)

end Shown

variable {left right decision : Decision}

def shown (decision : Decision) : Shown where
  required := toString decision.visaRequired
  category := Vocabulary.token decision.category
  kind := Vocabulary.token decision.kind
  documents := ", ".intercalate (decision.documents.map Vocabulary.token)
  processing := decision.processing.toNat.repr
  warnings := if decision.warnings.isEmpty then none else some ("; ".intercalate decision.warnings)

theorem lines_eq_shown (other : ¬decision.isFallback) : decision.lines = decision.shown.lines := by
  rw [lines, if_neg other]
  obtain ⟨required, category, kind, documents, processing, warnings⟩ := decision
  cases required <;> cases warnings <;> rfl

theorem render_eq_shown (other : ¬decision.isFallback) :
    decision.render = "\n".intercalate decision.shown.lines := by
  rw [render, lines_eq_shown other]

/-! ## Reading the values -/

/-- Each warning keeps to one line and holds no letter that might part it from the next one. -/
structure Separable (decision : Decision) : Prop where
  oneLine : ∀ warning ∈ decision.warnings, '\n' ∉ warning.toList
  whole : ∀ warning ∈ decision.warnings, ';' ∉ warning.toList

theorem Separable.oneLine_shown (separable : decision.Separable) : decision.shown.OneLine where
  required := by
    change '\n' ∉ (toString decision.visaRequired).toList
    cases decision.visaRequired <;> decide
  category := (Vocabulary.Capital.capital decision.category).not_mem (by decide)
  kind := (Vocabulary.Capital.capital decision.kind).not_mem (by decide)
  documents := by
    rw [shown, String.toList_intercalate]
    refine Text.not_mem_intercalate (by decide) fun piece listed => ?_
    simp only [List.mem_map] at listed
    obtain ⟨_, ⟨document, _, rfl⟩, rfl⟩ := listed
    exact (Vocabulary.Capital.capital document).not_mem (by decide)
  processing := by
    rw [shown, Nat.toList_repr]
    intro inside
    exact absurd (Nat.isDigit_of_mem_toDigits (by decide) (by decide) inside) (by decide)
  warnings text found := by
    simp only [shown, Option.mem_def, Option.ite_none_left_eq_some, Option.some.injEq] at found
    rw [← found.2, String.toList_intercalate]
    refine Text.not_mem_intercalate (by decide) fun piece listed => ?_
    obtain ⟨warning, inside, rfl⟩ := List.mem_map.mp listed
    exact separable.oneLine warning inside

/-- Tokens hold no comma, and no list of tokens but the empty one is written as nothing. -/
theorem eq_of_intercalate_tokens {documents others : List Document}
    (same : ", ".intercalate (documents.map Vocabulary.token) =
      ", ".intercalate (others.map Vocabulary.token)) : documents = others := by
  have free (documents : List Document) :
      ∀ token ∈ documents.map Vocabulary.token, ',' ∉ token.toList := by
    intro token listed
    obtain ⟨document, _, rfl⟩ := List.mem_map.mp listed
    exact (Vocabulary.Capital.capital document).not_mem (by decide)
  have empty (documents : List Document) :
      ", ".intercalate (documents.map Vocabulary.token) = "" ↔
        documents.map Vocabulary.token = [] := by
    have solid : ∀ piece ∈ (documents.map Vocabulary.token).map String.toList, piece ≠ [] := by
      intro piece listed
      simp only [List.mem_map] at listed
      obtain ⟨_, ⟨document, _, rfl⟩, rfl⟩ := listed
      exact (Vocabulary.Capital.capital document).nonempty
    rw [← String.toList_inj, String.toList_intercalate]
    exact (Text.intercalate_eq_nil_iff solid).trans List.map_eq_nil_iff
  have tokens := Text.eq_of_intercalate_strings rfl (free documents) (free others)
    (by rw [← empty, ← empty, same]) same
  exact (List.map_inj_right fun _ _ => Vocabulary.token_injective).mp tokens

theorem Separable.eq_of_shown (separable : left.Separable) (separableOther : right.Separable)
    (same : left.shown = right.shown) : left = right := by
  simp only [shown, Shown.mk.injEq] at same
  obtain ⟨required, category, kind, documents, processing, warnings⟩ := same
  have warned : left.warnings.isEmpty = right.warnings.isEmpty := by
    cases ended : left.warnings.isEmpty <;> cases endedOther : right.warnings.isEmpty <;>
      simp_all
  have sameWarnings : left.warnings = right.warnings := by
    cases ended : right.warnings.isEmpty with
    | true =>
        rw [ended, List.isEmpty_iff] at warned
        rw [warned, List.isEmpty_iff.mp ended]
    | false =>
        rw [warned, ended] at warnings
        refine Text.eq_of_intercalate_strings rfl separable.whole separableOther.whole ?_
          (by simpa using warnings)
        rw [← List.isEmpty_iff, ← List.isEmpty_iff, warned]
  have sameRequired : left.visaRequired = right.visaRequired := by
    revert required
    cases left.visaRequired <;> cases right.visaRequired <;> decide
  have sameProcessing : left.processing = right.processing := by
    have digits := congrArg String.toList processing
    rw [Nat.toList_repr, Nat.toList_repr] at digits
    have value := congrArg (Nat.ofDigitChars 10 · 0) digits
    simp only [Nat.ofDigitChars_ten_toDigits] at value
    exact UInt32.toNat_inj.mp value
  cases left
  cases right
  simp only [Decision.mk.injEq]
  exact ⟨sameRequired, Vocabulary.token_injective category, Vocabulary.token_injective kind,
    eq_of_intercalate_tokens documents, sameProcessing, sameWarnings⟩

theorem Separable.eq_of_render (separable : left.Separable) (separableOther : right.Separable)
    (solid : ¬left.isFallback) (solidOther : ¬right.isFallback)
    (same : left.render = right.render) : left = right := by
  rw [render_eq_shown solid, render_eq_shown solidOther] at same
  exact separable.eq_of_shown separableOther
    (separable.oneLine_shown.eq_of_intercalate separableOther.oneLine_shown same)

/-- Warnings that are not separable can print alike. -/
example (rule : Rule) : (ofRule rule ["a", "b"]).render = (ofRule rule ["a; b"]).render := rfl

end Decision

/-! ## Evaluations -/

namespace RuleBook

theorem separable_evaluate (book : RuleBook) (trip : Trip) : (book.evaluate trip).Separable := by
  have ambiguity : '\n' ∉ Decision.ambiguityWarning.toList ∧
      ';' ∉ Decision.ambiguityWarning.toList := by decide
  have none : '\n' ∉ Decision.noRuleWarning.toList ∧ ';' ∉ Decision.noRuleWarning.toList := by
    decide
  rcases book.evaluate_cases trip with ⟨_, same⟩ | ⟨_, rule, same⟩ | ⟨_, rule, same⟩
  · rw [same]
    exact ⟨List.forall_mem_singleton.mpr none.1, List.forall_mem_singleton.mpr none.2⟩
  · rw [same]
    exact ⟨nofun, nofun⟩
  · rw [same]
    exact ⟨List.forall_mem_singleton.mpr ambiguity.1, List.forall_mem_singleton.mpr ambiguity.2⟩

/-- Two evaluations print the same text only if they are the same decision, whatever the rule books
and the trips; and the text of the fallback is printed only if no rule covers the trip. -/
theorem render_evaluate_eq_iff (book other : RuleBook) (trip otherTrip : Trip) :
    ((book.evaluate trip).render = (other.evaluate otherTrip).render ↔
        book.evaluate trip = other.evaluate otherTrip) ∧
      ((book.evaluate trip).render = Decision.fallback.render ↔ book.candidates trip = []) := by
  have fallback (book : RuleBook) (trip : Trip) :
      (book.evaluate trip).render = Decision.fallback.render ↔
        book.evaluate trip = .fallback := by
    have shown : Decision.fallback.render = Decision.noRuleWarning :=
      Decision.render_of_isFallback rfl
    rw [shown, Decision.render_eq_iff, isFallback_evaluate_iff]
  refine ⟨⟨fun same => ?_, fun same => by rw [same]⟩, ?_⟩
  · by_cases none : book.evaluate trip = .fallback
    · rw [none] at same ⊢
      exact ((fallback other otherTrip).mp same.symm).symm
    · have noneOther : other.evaluate otherTrip ≠ .fallback := fun found =>
        none ((fallback book trip).mp (by rw [same, found]))
      exact (separable_evaluate book trip).eq_of_render (separable_evaluate other otherTrip)
        (mt isFallback_evaluate_iff.mp none) (mt isFallback_evaluate_iff.mp noneOther) same
  · rw [fallback, evaluate_eq_fallback_iff, List.length_eq_zero_iff]

end RuleBook

end Visa
