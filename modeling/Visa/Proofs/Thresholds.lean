import Visa.Proofs.Selection

namespace Visa

/-! How the answer for a route changes with the length of the stay. What counts of the rules of the
route are their bounds, the greatest first: the first bound is where answers by a rule end, and the
second is where doubt about the rule ends. -/

/-! ## Descending lists -/

/-- In a descending list at least as many values reach a threshold as the place of any value that
does. -/
theorem lt_countP_iff_of_descending {values : List UInt32} (descending : values.Pairwise (· ≥ ·))
    (least : UInt32) (index : Nat) :
    index < values.countP (fun value => least ≤ value) ↔
      ∃ value, values[index]? = some value ∧ least ≤ value := by
  induction values generalizing index with
  | nil => simp
  | cons first rest ih =>
      obtain ⟨greatest, later⟩ := List.pairwise_cons.mp descending
      by_cases reached : least ≤ first
      · rw [List.countP_cons_of_pos (by simpa using reached)]
        cases index with
        | zero => simp [reached]
        | succ index => rw [Nat.add_lt_add_iff_right, ih later, List.getElem?_cons_succ]
      · -- The first value is the greatest, so no other reaches the threshold either.
        have short : ∀ value ∈ first :: rest, ¬least ≤ value := by
          refine List.forall_mem_cons.mpr ⟨reached, fun value inside enough => ?_⟩
          exact reached (UInt32.le_trans enough (greatest value inside))
        have none : (first :: rest).countP (fun value => least ≤ value) = 0 :=
          List.countP_eq_zero.mpr fun value inside => by simpa using short value inside
        rw [none]
        refine ⟨fun less => absurd less (Nat.not_lt_zero index), ?_⟩
        rintro ⟨value, found, enough⟩
        exact absurd enough (short value (List.mem_of_getElem? found))

namespace RuleBook

variable (book : RuleBook) (route : Route)

/-! ## The bounds of a route -/

def onRoute : List Rule := book.filter fun rule => rule.toRoute = route

/-- The bounds on the stay of all rules for the route, the greatest first. -/
def bounds : List UInt32 :=
  ((book.onRoute route).map Rule.maxStay).mergeSort fun left right => right ≤ left

theorem bounds_perm : (book.bounds route).Perm ((book.onRoute route).map Rule.maxStay) :=
  List.mergeSort_perm _ _

theorem bounds_descending : (book.bounds route).Pairwise (· ≥ ·) := by
  have transitive : ∀ first second third : UInt32, decide (second ≤ first) = true →
      decide (third ≤ second) = true → decide (third ≤ first) = true := by
    intro first second third upper lower
    rw [decide_eq_true_eq] at upper lower ⊢
    exact UInt32.le_trans lower upper
  have total : ∀ left right : UInt32, (decide (right ≤ left) || decide (left ≤ right)) = true := by
    intro left right
    rw [Bool.or_eq_true, decide_eq_true_eq, decide_eq_true_eq]
    exact UInt32.le_total right left
  have ordered := List.pairwise_mergeSort transitive total ((book.onRoute route).map Rule.maxStay)
  simpa only [bounds, ge_iff_le, decide_eq_true_eq] using ordered

theorem bounds_eq_nil_iff : book.bounds route = [] ↔ book.onRoute route = [] := by
  rw [← List.perm_nil, (book.bounds_perm route).congr_left, List.perm_nil, List.map_eq_nil_iff]

/-! ## Candidates -/

theorem candidates_eq_filter_onRoute (stay : UInt32) :
    book.candidates ⟨route, stay⟩ = (book.onRoute route).filter fun rule => stay ≤ rule.maxStay := by
  rw [candidates, onRoute, List.filter_filter]
  refine List.filter_congr fun rule _ => ?_
  rw [Rule.covers, Bool.and_comm]

/-- As many rules answer a stay as there are bounds that admit it. -/
theorem length_candidates (stay : UInt32) :
    (book.candidates ⟨route, stay⟩).length =
      (book.bounds route).countP fun bound => stay ≤ bound := by
  rw [(book.bounds_perm route).countP_eq, List.countP_map, List.countP_eq_length_filter,
    candidates_eq_filter_onRoute]
  rfl

theorem lt_length_candidates_iff (stay : UInt32) (count : Nat) :
    count < (book.candidates ⟨route, stay⟩).length ↔
      ∃ bound, (book.bounds route)[count]? = some bound ∧ stay ≤ bound := by
  rw [length_candidates]
  exact lt_countP_iff_of_descending (book.bounds_descending route) stay count

/-- A longer stay is answered by some of the rules that answer a shorter one. -/
theorem candidates_sublist (route : Route) {stay later : UInt32} (longer : stay ≤ later) :
    (book.candidates ⟨route, later⟩).Sublist (book.candidates ⟨route, stay⟩) := by
  rw [candidates_eq_filter_onRoute, candidates_eq_filter_onRoute]
  refine List.monotone_filter_right _ fun rule admitted => ?_
  rw [decide_eq_true_eq] at admitted ⊢
  exact UInt32.le_trans longer admitted

/-! ## Decisions -/

variable {book route} {trip : Trip}

theorem length_candidates_eq_zero_iff (stay : UInt32) :
    (book.candidates ⟨route, stay⟩).length = 0 ↔ book.onRoute route = [] ∨
      ∃ greatest, (book.bounds route)[0]? = some greatest ∧ greatest < stay := by
  rw [← Nat.le_zero, ← Nat.not_lt, lt_length_candidates_iff, ← bounds_eq_nil_iff]
  cases book.bounds route with
  | nil => simp
  | cons greatest rest => simp [UInt32.not_le]

/-- A decision is told apart by how many rules answer the trip. -/
theorem evaluate_cases (book : RuleBook) (trip : Trip) :
    ((book.candidates trip).length = 0 ∧ book.evaluate trip = .fallback) ∨
    ((book.candidates trip).length = 1 ∧ ∃ rule, book.evaluate trip = .ofRule rule []) ∨
    (1 < (book.candidates trip).length ∧
      ∃ rule, book.evaluate trip = .ofRule rule [Decision.ambiguityWarning]) := by
  unfold evaluate
  cases book.candidates trip with
  | nil => exact .inl ⟨rfl, rfl⟩
  | cons first rest =>
      cases rest with
      | nil => exact .inr (.inl ⟨rfl, first, rfl⟩)
      | cons second rest => exact .inr (.inr ⟨by simp, first, rfl⟩)

theorem evaluate_eq_fallback_iff :
    book.evaluate trip = .fallback ↔ (book.candidates trip).length = 0 := by
  rcases book.evaluate_cases trip with
    ⟨none, same⟩ | ⟨one, rule, same⟩ | ⟨several, rule, same⟩
  · exact iff_of_true same none
  · refine iff_of_false (fun fallback => ?_) (by omega)
    have warnings := congrArg Decision.warnings (same.symm.trans fallback)
    simp [Decision.ofRule, Decision.fallback] at warnings
  · refine iff_of_false (fun fallback => ?_) (by omega)
    have warnings := congrArg Decision.warnings (same.symm.trans fallback)
    simp [Decision.ofRule, Decision.fallback, Decision.ambiguityWarning,
      Decision.noRuleWarning] at warnings

theorem isFallback_evaluate_iff :
    (book.evaluate trip).isFallback ↔ book.evaluate trip = .fallback := by
  refine ⟨fun isFallback => ?_, fun fallback => by rw [fallback]; rfl⟩
  rcases book.evaluate_cases trip with
    ⟨_, same⟩ | ⟨_, rule, same⟩ | ⟨_, rule, same⟩
  · exact same
  · rw [same] at isFallback
    contradiction
  · rw [same] at isFallback
    simp [Decision.isFallback, Decision.ofRule, Decision.ambiguityWarning,
      Decision.noRuleWarning] at isFallback

theorem ambiguityWarning_mem_iff :
    Decision.ambiguityWarning ∈ (book.evaluate trip).warnings ↔
      1 < (book.candidates trip).length := by
  rcases book.evaluate_cases trip with
    ⟨none, same⟩ | ⟨one, rule, same⟩ | ⟨several, rule, same⟩
  · refine iff_of_false ?_ (by omega)
    rw [same]
    decide
  · refine iff_of_false ?_ (by omega)
    rw [same]
    exact List.not_mem_nil
  · refine iff_of_true ?_ several
    rw [same]
    exact List.mem_singleton_self _

theorem warnings_eq_nil (found : book.evaluate trip ≠ .fallback)
    (single : Decision.ambiguityWarning ∉ (book.evaluate trip).warnings) :
    (book.evaluate trip).warnings = [] := by
  rcases book.evaluate_cases trip with
    ⟨_, same⟩ | ⟨_, rule, same⟩ | ⟨several, _⟩
  · exact absurd same found
  · rw [same]
    rfl
  · exact absurd (ambiguityWarning_mem_iff.mpr several) single

/-- The two greatest bounds of a route decide how a stay is answered: beyond the first there is no
rule, and up to the second there is more than one. So a longer stay can lose candidates, and gains
none. -/
theorem evaluate_thresholds (book : RuleBook) (route : Route) :
    ((book.bounds route).Perm ((book.onRoute route).map Rule.maxStay) ∧
        (book.bounds route).Pairwise (· ≥ ·)) ∧
      (∀ stay, ((book.evaluate ⟨route, stay⟩).isFallback ↔
          book.evaluate ⟨route, stay⟩ = .fallback) ∧
        (book.evaluate ⟨route, stay⟩ = .fallback ↔ book.onRoute route = [] ∨
          ∃ greatest, (book.bounds route)[0]? = some greatest ∧ greatest < stay) ∧
        (Decision.ambiguityWarning ∈ (book.evaluate ⟨route, stay⟩).warnings ↔
          ∃ second, (book.bounds route)[1]? = some second ∧ stay ≤ second) ∧
        (book.evaluate ⟨route, stay⟩ ≠ .fallback →
          Decision.ambiguityWarning ∉ (book.evaluate ⟨route, stay⟩).warnings →
          (book.evaluate ⟨route, stay⟩).warnings = [])) ∧
      ∀ stay later, stay ≤ later →
        (book.candidates ⟨route, later⟩).Sublist (book.candidates ⟨route, stay⟩) ∧
        (book.evaluate ⟨route, stay⟩ = .fallback → book.evaluate ⟨route, later⟩ = .fallback) ∧
        (Decision.ambiguityWarning ∈ (book.evaluate ⟨route, later⟩).warnings →
          Decision.ambiguityWarning ∈ (book.evaluate ⟨route, stay⟩).warnings) := by
  refine ⟨⟨book.bounds_perm route, book.bounds_descending route⟩, fun stay => ?_,
    fun stay later longer => ?_⟩
  · refine ⟨isFallback_evaluate_iff, ?_, ?_, warnings_eq_nil⟩
    · rw [evaluate_eq_fallback_iff, length_candidates_eq_zero_iff]
    · rw [ambiguityWarning_mem_iff, lt_length_candidates_iff]
  · have fewer := book.candidates_sublist route longer
    refine ⟨fewer, ?_, ?_⟩
    · rw [evaluate_eq_fallback_iff, evaluate_eq_fallback_iff]
      have length := fewer.length_le
      omega
    · rw [ambiguityWarning_mem_iff, ambiguityWarning_mem_iff]
      exact fun several => Nat.lt_of_lt_of_le several fewer.length_le

end RuleBook

end Visa
