import Visa.Proofs.Nesting
import Visa.Proofs.Remark

namespace Visa

/-! Lists of rules that carry a remark each. Records are parted by counting braces, and the braces
of remarks are counted with the others, so what becomes of a rule depends on the remarks in front of
it and on its own. -/

open Json.Literal (escaped)
open Json.Value (newline)
open Record (Closes Field Opens Scan)
open Record.Scan (Holds)
open Rule (finale separator)

/-! ## Rules of a scan -/

namespace Record.Scan

/-- The rules among the records that have been found. -/
def rules (scan : Scan) : List Rule :=
  scan.finished.reverse.filterMap fun record => (Record.read record).toOption

theorem rules_of_plain (scan : Scan) {text : List Char} (noOpen : '{' ∉ text)
    (noClose : '}' ∉ text) : (text.foldl step scan).rules = scan.rules := by
  rw [rules, (foldl_step_plain scan noOpen noClose).1, rules]

/-- Texts of one kind, each of which gives what can be read of it. -/
theorem rules_foldl_flatMap {Waiting : Scan → Prop} {write : Rule → List Char}
    {reading : Rule → Option Rule} {rules : List Rule} {scan : Scan}
    (each : ∀ rule ∈ rules, ∀ scan : Scan, Waiting scan →
      Waiting ((write rule).foldl step scan) ∧
        ((write rule).foldl step scan).rules = scan.rules ++ (reading rule).toList)
    (waiting : Waiting scan) :
    ((rules.flatMap write).foldl step scan).rules = scan.rules ++ rules.filterMap reading := by
  induction rules generalizing scan with
  | nil => simp
  | cons rule later ih =>
      obtain ⟨first, others⟩ := List.forall_mem_cons.mp each
      obtain ⟨stillWaiting, found⟩ := first scan waiting
      rw [List.flatMap_cons, List.foldl_append, ih others stillWaiting, found, List.append_assoc,
        ← Report.filterMap_singleton, ← List.filterMap_append, List.singleton_append]

end Record.Scan

theorem Report.rules_ofText_eq (text : List Char) :
    (ofText text).rules = (text.foldl Scan.step Scan.start).rules := by
  rw [ofText, ofCut, Record.records_ofText, Scan.rules]

namespace Rule

variable {remark gap : List Char} {rule : Rule} {field : Field} {scan : Scan}

/-! ## Braces of remarks -/

theorem count_open_ending : ('"' :: (newline 1 ++ ['}'])).count '{' = 0 := by decide

theorem count_close_ending : ('"' :: (newline 1 ++ ['}'])).count '}' = 1 := by decide

theorem count_open_finale (remark : List Char) :
    (finale remark).count '{' = remark.count '{' := by
  have braces := Json.Literal.count_flatMap_escaped (by decide : '{' ∈ ['{', '}']) remark
  rw [finale, List.count_append, braces, count_open_ending, Nat.add_zero]

theorem count_close_finale (remark : List Char) :
    (finale remark).count '}' = remark.count '}' + 1 := by
  have braces := Json.Literal.count_flatMap_escaped (by decide : '}' ∈ ['{', '}']) remark
  rw [finale, List.count_append, braces, count_close_ending]

theorem finale_append (first second : List Char) :
    finale (first ++ second) = first.flatMap escaped ++ finale second := by
  simp [finale]

theorem closes_finale_iff :
    Closes (finale remark) 0 ↔ Closes remark 0 ∨ remark.count '{' ≤ remark.count '}' := by
  constructor
  · rintro ⟨front, ⟨back, whole⟩, more⟩
    rcases List.append_eq_append_iff.mp whole with ⟨later, parted, _⟩ | ⟨within, longer, closing⟩
    · obtain ⟨first, second, rfl, braces⟩ := Json.Literal.exists_split parted
      have opened := (braces '{' (by decide)).1
      have closed := (braces '}' (by decide)).1
      exact .inl ⟨first, List.prefix_append _ _, by omega⟩
    · have opened := Json.Literal.count_flatMap_escaped (by decide : '{' ∈ ['{', '}']) remark
      have closed := Json.Literal.count_flatMap_escaped (by decide : '}' ∈ ['{', '}']) remark
      have braces := congrArg (List.count '}') closing
      rw [List.count_append, count_close_ending] at braces
      rw [longer, List.count_append, List.count_append] at more
      exact .inr (by omega)
  · rintro (⟨front, ⟨back, rfl⟩, more⟩ | enough)
    · have opened := Json.Literal.count_flatMap_escaped (by decide : '{' ∈ ['{', '}']) front
      have closed := Json.Literal.count_flatMap_escaped (by decide : '}' ∈ ['{', '}']) front
      rw [finale_append]
      exact ⟨front.flatMap escaped, List.prefix_append _ _, by omega⟩
    · have opened := count_open_finale remark
      have closed := count_close_finale remark
      exact ⟨finale remark, List.prefix_rfl, by omega⟩

/-- A scan that holds an end of a record has two levels of the remark open. -/
theorem opens_of_holds (holds : Holds (finale remark) scan) (inside : scan.depth ≠ 0) :
    Opens remark 1 := by
  have deep := holds.balance
  obtain ⟨part, ⟨front, parted⟩, same⟩ :=
    exists_of_suffix_finale holds.held (holds.open_mem inside)
  obtain ⟨first, second, rfl, braces⟩ := Json.Literal.exists_split parted.symm
  have opens := (braces '{' (by decide)).2
  have closes := (braces '}' (by decide)).2
  rw [same, List.count_append, List.count_append, count_open_ending, count_close_ending] at deep
  exact ⟨second, List.suffix_append _ _, by omega⟩

theorem depth_ne_zero_of_opens (opens : Opens remark 1) (scan : Scan) (lead : List Char) :
    ((lead ++ finale remark).foldl Scan.step scan).depth ≠ 0 := by
  obtain ⟨back, ⟨front, rfl⟩, more⟩ := opens
  have isEnd : finale back <:+ lead ++ finale (front ++ back) := by
    rw [finale_append, ← List.append_assoc]
    exact List.suffix_append _ _
  have deep := Scan.count_le_depth scan isEnd
  rw [count_open_finale, count_close_finale] at deep
  omega

/-! ## One record -/

theorem exists_front_of_closes (rule : Rule) (free : scan.depth = 0 → scan.held = [])
    (gapOpen : '{' ∉ gap) (gapClose : '}' ∉ gap) (closes : Closes (finale remark) scan.depth) :
    ∃ front, ((gap ++ '{' :: rule.heading ++ finale remark).foldl Scan.step scan).rules =
        scan.rules ++ (Record.read
          (scan.carried gap ++ '{' :: (rule.heading ++ front))).toOption.toList ∧
      Holds (finale remark)
        ((gap ++ '{' :: rule.heading ++ finale remark).foldl Scan.step scan) := by
  obtain ⟨front, pieces, found, parts, holds⟩ := Scan.exists_record_of_closes free gapOpen gapClose
    rule.open_not_mem_heading rule.close_not_mem_heading closes
  have nothing : pieces.reverse.filterMap (fun record => (Record.read record).toOption) = [] :=
    List.filterMap_eq_nil_iff.mpr fun piece inside =>
      toOption_read_of_infix_finale (parts piece (List.mem_reverse.mp inside))
  refine ⟨front, ?_, holds⟩
  rw [Scan.rules, found, Scan.rules, List.reverse_append, List.reverse_cons, List.filterMap_append,
    nothing, List.append_nil, List.filterMap_append, Report.filterMap_singleton]

theorem rules_of_not_closes (rule : Rule) (free : scan.depth = 0 → scan.held = [])
    (gapOpen : '{' ∉ gap) (gapClose : '}' ∉ gap) (kept : ¬Closes (finale remark) scan.depth) :
    ((gap ++ '{' :: rule.heading ++ finale remark).foldl Scan.step scan).rules = scan.rules := by
  rw [Scan.rules, Scan.finished_of_not_closes free gapOpen gapClose rule.open_not_mem_heading
    rule.close_not_mem_heading kept, Scan.rules]

/-! ## Records in a row -/

variable {rules : List Rule}

/-- A rule and its remark behind other rules. -/
def record (remark : List Char) (rule : Rule) : List Char :=
  separator ++ '{' :: rule.heading ++ finale remark

/-- The scan stands between two records and may still hold the end of the last one. -/
structure Awaits (remark : List Char) (scan : Scan) : Prop where
  holds : Holds (finale remark) scan
  deep : scan.depth = 0 → ¬Opens remark 1

/-- The scan is inside a record that the next remark does not close. -/
structure Stuck (remark : List Char) (scan : Scan) : Prop where
  free : scan.depth = 0 → scan.held = []
  kept : ¬Closes (finale remark) scan.depth

theorem awaits_of_holds {lead : List Char}
    (holds : Holds (finale remark) ((lead ++ finale remark).foldl Scan.step scan)) :
    Awaits remark ((lead ++ finale remark).foldl Scan.step scan) where
  holds := holds
  deep outside opens := depth_ne_zero_of_opens opens scan lead outside

/-- Where remarks close what they open, every record is found, if only behind the end of another. -/
theorem rules_of_awaits {reading : Rule → Option Rule}
    (balance : remark.count '{' ≤ remark.count '}')
    (read : ∀ rule ∈ rules, ∀ scan, Awaits remark scan → ∀ front,
      (Record.read (scan.carried separator ++ '{' :: (rule.heading ++ front))).toOption =
        reading rule)
    (awaits : Awaits remark scan) :
    ((rules.flatMap (record remark)).foldl Scan.step scan).rules =
      scan.rules ++ rules.filterMap reading := by
  have fewer : (finale remark).count '{' < (finale remark).count '}' := by
    rw [count_open_finale, count_close_finale]
    omega
  refine Scan.rules_foldl_flatMap (fun rule inside scan awaits => ?_) awaits
  have closes := Record.closes_of_suffix fewer awaits.holds.held awaits.holds.balance
  obtain ⟨front, found, holds⟩ := exists_front_of_closes rule awaits.holds.free
    (by decide : '{' ∉ separator) (by decide : '}' ∉ separator) closes
  exact ⟨awaits_of_holds holds, by rw [record, found, read rule inside scan awaits front]⟩

theorem stuck_of_suffix (enough : remark.count '}' < remark.count '{')
    (free : scan.depth = 0 → scan.held = []) {lead : List Char} :
    Stuck remark ((lead ++ finale remark).foldl Scan.step scan) where
  free := Scan.held_foldl_step scan _ free
  kept := by
    have covered : (finale remark).count '}' ≤ (finale remark).count '{' := by
      rw [count_open_finale, count_close_finale]
      omega
    refine Record.not_closes_of_suffixes covered fun back isEnd => ?_
    exact Scan.count_le_depth scan (isEnd.trans (List.suffix_append _ _))

/-- Where remarks open more than they close, nothing is found once a record is not closed. -/
theorem rules_of_stuck (enough : remark.count '}' < remark.count '{') (stuck : Stuck remark scan) :
    ((rules.flatMap (record remark)).foldl Scan.step scan).rules = scan.rules := by
  have found : ((rules.flatMap (record remark)).foldl Scan.step scan).rules =
      scan.rules ++ rules.filterMap fun _ => none := by
    refine Scan.rules_foldl_flatMap (fun rule _ scan stuck => ?_) stuck
    refine ⟨stuck_of_suffix enough stuck.free, ?_⟩
    rw [record, rules_of_not_closes rule stuck.free (by decide) (by decide) stuck.kept]
    simp
  rw [found]
  simp

/-! ## Reading between two records -/

theorem read_of_awaits (awaits : Awaits remark scan)
    (harmless : ¬Opens remark 1 ∨ ∀ field : Field, ¬field.Ends remark)
    (bounded : rule.excess? = none) (front : List Char) :
    (Record.read (scan.carried separator ++ '{' :: (rule.heading ++ front))).toOption =
      some rule := by
  have passed (field : Field) : Text.PassedBy field.key (scan.carried separator) := by
    unfold Scan.carried
    split <;> rename_i depth
    · exact fun _ => rfl
    · have unnamed := harmless.resolve_left (not_not.mpr (opens_of_holds awaits.holds depth))
      exact passedBy_separated awaits.holds.held (awaits.holds.open_mem depth) (unnamed field)
  rw [read_heading passed bounded]
  rfl

theorem read_of_awaits_misled (awaits : Awaits remark scan) (opens : Opens remark 1)
    (named : field.Ends remark) (bounded : rule.excess? = none) (front : List Char) :
    (Record.read (scan.carried separator ++ '{' :: (rule.heading ++ front))).toOption =
      rule.misled field := by
  have depth : scan.depth ≠ 0 := fun outside => awaits.deep outside opens
  rw [Scan.carried, if_neg depth]
  exact toOption_read_misled front bounded awaits.holds.held (awaits.holds.open_mem depth) named

end Rule

/-! ## Whole lists -/

namespace Report

open Rule (Awaits Stuck misled record)

variable {first : Rule} {rest : List Rule} {remark : String}

def afterFirst (remark : String) (first : Rule) : Scan :=
  ('[' :: newline 1 ++ '{' :: first.heading ++ finale remark.toList).foldl Scan.step Scan.start

theorem rules_renderRemarked_cons (remark : String) (first : Rule) (rest : List Rule) :
    (ofText (Rule.renderRemarked remark (first :: rest))).rules =
      ((rest.flatMap (record remark.toList)).foldl Scan.step (afterFirst remark first)).rules := by
  have written : Rule.renderRemarked remark (first :: rest) =
      '[' :: newline 1 ++ '{' :: first.heading ++ finale remark.toList ++
        (rest.flatMap (record remark.toList) ++ (newline 0 ++ [']'])) := by
    have behind : record remark.toList =
        fun rule => separator ++ '{' :: (rule.heading ++ finale remark.toList) := by
      funext rule
      simp [record]
    rw [Rule.renderRemarked, List.map_cons, Json.Value.render, Json.Value.write,
      Rule.writeItems_map, behind]
    simp [Rule.write_withMember]
  rw [rules_ofText_eq, written, List.foldl_append, List.foldl_append,
    Scan.rules_of_plain _ (by decide) (by decide), afterFirst]

theorem rules_afterFirst (closes : Closes (finale remark.toList) 0)
    (bounded : first.excess? = none) :
    (afterFirst remark first).rules = [first] ∧ Awaits remark.toList (afterFirst remark first) := by
  obtain ⟨front, found, holds⟩ := Rule.exists_front_of_closes first (fun _ => rfl)
    (by decide : '{' ∉ '[' :: newline 1) (by decide : '}' ∉ '[' :: newline 1)
    (show Closes (finale remark.toList) Scan.start.depth from closes)
  refine ⟨?_, Rule.awaits_of_holds holds⟩
  have carried : Scan.start.carried ('[' :: newline 1) = [] := rfl
  have read : Record.read ([] ++ '{' :: (first.heading ++ front)) = .ok first :=
    Rule.read_heading (fun _ _ => rfl) bounded
  rw [afterFirst, found, carried, read]
  rfl

theorem stuck_afterFirst (enough : remark.toList.count '}' < remark.toList.count '{') :
    Stuck remark.toList (afterFirst remark first) :=
  Rule.stuck_of_suffix enough (fun _ => rfl)

variable {rules : List Rule}

theorem rules_of_balance {reading : Rule → Option Rule}
    (balance : remark.toList.count '{' ≤ remark.toList.count '}')
    (bounded : ∀ rule ∈ rules, rule.excess? = none)
    (read : ∀ rule ∈ rules, ∀ scan, Awaits remark.toList scan → ∀ front,
      (Record.read (scan.carried separator ++ '{' :: (rule.heading ++ front))).toOption =
        reading rule) :
    (ofText (Rule.renderRemarked remark rules)).rules =
      rules.take 1 ++ (rules.drop 1).filterMap reading := by
  cases rules with
  | nil => rfl
  | cons first rest =>
      obtain ⟨found, awaits⟩ := rules_afterFirst (Rule.closes_finale_iff.mpr (.inr balance))
        (bounded first List.mem_cons_self)
      rw [rules_renderRemarked_cons, Rule.rules_of_awaits balance
        (fun rule inside => read rule (List.mem_cons_of_mem _ inside)) awaits, found]
      rfl

/-- A remark that closes what it opens is harmless, unless it leaves two braces open at its end and
ends in the name of a field. -/
theorem rules_of_harmless (balance : remark.toList.count '{' ≤ remark.toList.count '}')
    (harmless : ¬Opens remark.toList 1 ∨ ∀ field : Field, ¬field.Ends remark.toList)
    (bounded : ∀ rule ∈ rules, rule.excess? = none) :
    (ofText (Rule.renderRemarked remark rules)).rules = rules := by
  have found := rules_of_balance balance bounded fun rule inside _ awaits =>
    Rule.read_of_awaits awaits harmless (bounded rule inside)
  rwa [List.filterMap_some, List.take_append_drop] at found

theorem rules_of_misleading {field : Field}
    (balance : remark.toList.count '{' ≤ remark.toList.count '}') (opens : Opens remark.toList 1)
    (named : field.Ends remark.toList) (bounded : ∀ rule ∈ rules, rule.excess? = none) :
    (ofText (Rule.renderRemarked remark rules)).rules =
      rules.take 1 ++ (rules.drop 1).filterMap fun rule => rule.misled field :=
  rules_of_balance balance bounded fun rule inside _ awaits =>
    Rule.read_of_awaits_misled awaits opens named (bounded rule inside)

theorem rules_of_closed_once (enough : remark.toList.count '}' < remark.toList.count '{')
    (closes : Closes remark.toList 0) (bounded : ∀ rule ∈ rules, rule.excess? = none) :
    (ofText (Rule.renderRemarked remark rules)).rules = rules.take 1 := by
  cases rules with
  | nil => rfl
  | cons first rest =>
      obtain ⟨found, _⟩ := rules_afterFirst (Rule.closes_finale_iff.mpr (.inl closes))
        (bounded first List.mem_cons_self)
      rw [rules_renderRemarked_cons, Rule.rules_of_stuck enough (stuck_afterFirst enough), found]
      rfl

theorem rules_of_unclosed (rules : List Rule)
    (enough : remark.toList.count '}' < remark.toList.count '{') (kept : ¬Closes remark.toList 0) :
    (ofText (Rule.renderRemarked remark rules)).rules = [] := by
  cases rules with
  | nil => rfl
  | cons first rest =>
      have unclosed : ¬Closes (finale remark.toList) Scan.start.depth := by
        rw [show Scan.start.depth = 0 from rfl, Rule.closes_finale_iff]
        rintro (closes | balance)
        · exact kept closes
        · omega
      rw [rules_renderRemarked_cons, Rule.rules_of_stuck enough (stuck_afterFirst enough),
        afterFirst, Rule.rules_of_not_closes first (fun _ => rfl) (by decide) (by decide) unclosed]
      rfl

/-- Rules that carry the same remark are read as they are, unless the braces of the remark are in
the way. If more of them open than close, nothing behind the first record is read, and that record
only if an early closing brace ends it. Otherwise all rules are read; but where two braces are left
open at the end of the remark, the next record starts with that end, and the name of a field there
is taken for a member. -/
theorem rules_ofText_renderRemarked (rules : List Rule) (remark : String)
    (bounded : ∀ rule ∈ rules, rule.maxStay.toNat ≤ DayCount.recordLimit ∧
      rule.processing.toNat ≤ DayCount.recordLimit) :
    (remark.toList.count '{' ≤ remark.toList.count '}' →
      (¬Opens remark.toList 1 ∨ ∀ field : Field, ¬field.Ends remark.toList) →
        (ofText (Rule.renderRemarked remark rules)).rules = rules) ∧
      (remark.toList.count '{' ≤ remark.toList.count '}' → Opens remark.toList 1 →
        ∀ field : Field, field.Ends remark.toList →
          (ofText (Rule.renderRemarked remark rules)).rules =
            rules.take 1 ++ (rules.drop 1).filterMap fun rule => rule.misled field) ∧
      (remark.toList.count '}' < remark.toList.count '{' → Closes remark.toList 0 →
        (ofText (Rule.renderRemarked remark rules)).rules = rules.take 1) ∧
      (remark.toList.count '}' < remark.toList.count '{' → ¬Closes remark.toList 0 →
        (ofText (Rule.renderRemarked remark rules)).rules = []) := by
  have small : ∀ rule ∈ rules, rule.excess? = none := fun rule inside =>
    Rule.excess?_eq_none_iff.mpr (bounded rule inside)
  refine ⟨fun balance harmless => ?harmless, fun balance opens field named => ?misleading,
    fun enough closes => ?closedOnce, fun enough kept => ?unclosed⟩
  case harmless => exact rules_of_harmless balance harmless small
  case misleading => exact rules_of_misleading balance opens named small
  case closedOnce => exact rules_of_closed_once enough closes small
  case unclosed => exact rules_of_unclosed rules enough kept

theorem rules_ofText_renderRemarked_each_way :
    let first : Rule :=
      { destination := .japan, passport := .usa, purpose := .tourism, maxStay := 90
        visaRequired := false, category := .visaFree, kind := .none, documents := []
        processing := 0 }
    let second : Rule :=
      { destination := .uk, passport := .india, purpose := .business, maxStay := 2147483647
        visaRequired := true, category := .electronic, kind := .work
        documents := [.photo, .passport], processing := 3 }
    let found (remark : String) := (ofText (Rule.renderRemarked remark [first, second])).rules
    (∀ rule ∈ [first, second], rule.maxStay.toNat ≤ DayCount.recordLimit ∧
        rule.processing.toNat ≤ DayCount.recordLimit) ∧
      found "\"purpose\": \x7b\\ [\"WORK\"]\x7d, \x7d\x7b\x7b\x7d \"visaType" = [first, second] ∧
      found "\x7d\x7d\x7b\x7b\"passportCountry" = [first, { second with passport := .uk }] ∧
      found "\x7d\x7b\x7b" = [first] ∧ found "a \x7b brace" = [] := by
  intro first second found
  have bounded : ∀ rule ∈ [first, second], rule.maxStay.toNat ≤ DayCount.recordLimit ∧
      rule.processing.toNat ≤ DayCount.recordLimit := by decide
  have law (remark : String) := rules_ofText_renderRemarked [first, second] remark bounded
  refine ⟨bounded, ?_, ?_, ?_, ?_⟩
  · exact (law _).1 (by decide) (.inl (by decide))
  · exact (law _).2.1 (by decide) (by decide) .passport (by decide)
  · exact (law _).2.2.1 (by decide) (by decide)
  · exact (law _).2.2.2 (by decide) (by decide)

/-- A single opening brace in its remark keeps a rule from being read. -/
theorem rules_lost_to_remark :
    let rule : Rule :=
      { destination := .japan, passport := .usa, purpose := .tourism, maxStay := 90
        visaRequired := false, category := .visaFree, kind := .none, documents := []
        processing := 0 }
    rule.maxStay.toNat ≤ DayCount.recordLimit ∧ rule.processing.toNat ≤ DayCount.recordLimit ∧
      (ofText (Rule.renderRemarked "\x7b" [rule])).rules ≠ [rule] := by
  intro rule
  refine ⟨by decide, by decide, ?_⟩
  rw [rules_of_unclosed [rule] (by decide) (by decide)]
  nofun

end Report

end Visa
