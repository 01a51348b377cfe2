import Visa.Proofs.Layout
import Visa.Proofs.RoundTrip

namespace Visa

/-! A written list of rules with one character of one record missing. The other records are read
all the same as long as the damaged one still ends; without its closing brace it swallows every
record behind it. -/

namespace Record

/-! ## Texts inside a record -/

/-- Inside a record the text is held as it stands, and the record is as deep after it as before. -/
def Balanced (text : List Char) : Prop := ∀ finished held depth,
  text.foldl Scan.step ⟨finished, held, depth + 1⟩ = ⟨finished, text.reverse ++ held, depth + 1⟩

variable {text : List Char}

theorem balanced_of_not_mem (noOpen : '{' ∉ text) (noClose : '}' ∉ text) : Balanced text :=
  fun finished held depth => Scan.foldl_step_inside finished held depth noOpen noClose

theorem Balanced.append {first second : List Char} (balancedFirst : Balanced first)
    (balancedSecond : Balanced second) : Balanced (first ++ second) := by
  intro finished held depth
  rw [List.foldl_append, balancedFirst, balancedSecond, List.reverse_append, List.append_assoc]

theorem Balanced.braced (balanced : Balanced text) : Balanced ('{' :: (text ++ ['}'])) := by
  intro finished held depth
  have opened : Scan.step ⟨finished, held, depth + 1⟩ '{' =
      ⟨finished, '{' :: held, depth + 1 + 1⟩ := rfl
  rw [List.foldl_cons, opened, List.foldl_append, balanced]
  simp [Scan.step]

theorem balanced_flatMap {α : Type} {items : List α} {write : α → List Char}
    (each : ∀ item ∈ items, Balanced (write item)) : Balanced (items.flatMap write) := by
  induction items with
  | nil => exact fun _ _ _ => rfl
  | cons item rest ih =>
      obtain ⟨first, later⟩ := List.forall_mem_cons.mp each
      rw [List.flatMap_cons]
      exact first.append (ih later)

theorem records_of_unclosed (balanced : Balanced text) :
    (Cut.ofText ('{' :: text)).records = [] := by
  have opened : Scan.step Scan.start '{' = ⟨[], ['{'], 0 + 1⟩ := rfl
  rw [records_ofText, List.foldl_cons, opened, balanced]
  rfl

theorem yields_flatMap {α : Type} {items : List α} {write record : α → List Char}
    (each : ∀ item ∈ items, Yields (write item) [record item]) :
    Yields (items.flatMap write) (items.map record) := by
  induction items with
  | nil => exact yields_of_not_mem List.not_mem_nil
  | cons item rest ih =>
      obtain ⟨first, later⟩ := List.forall_mem_cons.mp each
      rw [List.flatMap_cons, List.map_cons]
      exact first.append (ih later)

end Record

open Record (Balanced Yields)

/-! ## A list around a record -/

namespace Rule

variable (rules : List Rule)

theorem yields_opening : Yields (opening rules) (rules.map fun rule => rule.toJson.write 1) := by
  have bracket : Yields ('[' :: Json.Value.newline 1) [] := Record.yields_of_not_mem (by decide)
  have separated : Yields separator [] := Record.yields_of_not_mem (by decide)
  refine bracket.append (Record.yields_flatMap fun rule _ => ?_)
  exact (rule.yields_write 1).append separated

theorem yields_closing : Yields (closing rules) (rules.map fun rule => rule.toJson.write 1) := by
  have bracket : Yields (Json.Value.newline 0 ++ [']']) [] := Record.yields_of_not_mem (by decide)
  have separated : Yields separator [] := Record.yields_of_not_mem (by decide)
  have records : Yields (rules.flatMap fun rule => separator ++ rule.toJson.write 1) _ :=
    Record.yields_flatMap fun rule _ => separated.append (rule.yields_write 1)
  have whole := records.append bracket
  rwa [List.append_nil] at whole

theorem balanced_inside (rule : Rule) : Balanced rule.inside :=
  Record.balanced_of_not_mem rule.open_not_mem_inside rule.close_not_mem_inside

theorem balanced_closing : Balanced (closing rules) := by
  have bracket : Balanced (Json.Value.newline 0 ++ [']']) :=
    Record.balanced_of_not_mem (by decide) (by decide)
  have separated : Balanced separator := Record.balanced_of_not_mem (by decide) (by decide)
  refine (Record.balanced_flatMap fun rule _ => ?_).append bracket
  rw [write_toJson]
  exact separated.append rule.balanced_inside.braced

end Rule

namespace Report

variable {before after : List Rule} {middle : List Char}

theorem rules_ofText_of_yields {text : List Char} {rules : List Rule}
    (yields : Yields text (rules.map fun rule => rule.toJson.write 1))
    (bounded : ∀ rule ∈ rules, rule.excess? = none) : (ofText text).rules = rules := by
  rw [ofText_of_yields yields, ofCut_of_bounded (Rule.forall₂_read_write rules) bounded]

theorem rules_ofText_append {first : List Char} (second : List Char)
    (closed : (Record.Cut.ofText first).tail = none) :
    (ofText (first ++ second)).rules = (ofText first).rules ++ (ofText second).rules := by
  rw [ofText_append second closed]
  rfl

theorem rules_ofText_opening (middle : List Char) (bounded : ∀ rule ∈ before, rule.excess? = none) :
    (ofText (Rule.opening before ++ middle)).rules = before ++ (ofText middle).rules := by
  have yields := Rule.yields_opening before
  rw [rules_ofText_append middle (by rw [Record.ofText_eq_iff_yields.mpr yields]),
    rules_ofText_of_yields yields bounded]

theorem rules_ofText_closing (closed : (Record.Cut.ofText middle).tail = none)
    (bounded : ∀ rule ∈ after, rule.excess? = none) :
    (ofText (middle ++ Rule.closing after)).rules = (ofText middle).rules ++ after := by
  rw [rules_ofText_append _ closed, rules_ofText_of_yields (Rule.yields_closing after) bounded]

theorem filterMap_singleton {α β : Type} (select : α → Option β) (item : α) :
    [item].filterMap select = (select item).toList := by
  rw [List.filterMap_cons]
  cases select item <;> rfl

theorem rules_ofCut_singleton (record : List Char) :
    (ofCut ⟨[record], none⟩).rules = (Record.read record).toOption.toList :=
  filterMap_singleton (fun record => (Record.read record).toOption) record

theorem rules_ofText_object {inside : List Char} (noOpen : '{' ∉ inside) (noClose : '}' ∉ inside) :
    (ofText ('{' :: inside ++ ['}'])).rules =
      (Record.read ('{' :: inside ++ ['}'])).toOption.toList := by
  rw [ofText_of_yields (Record.yields_object noOpen noClose), rules_ofCut_singleton]

theorem rules_ofText_unclosed {text : List Char} (balanced : Balanced text) :
    (ofText ('{' :: text)).rules = [] := by
  rw [ofText, ofCut, Record.records_of_unclosed balanced]
  rfl

end Report

/-! ## One character missing -/

namespace Rule

variable {rule : Rule} {front back : List Char} {letter : Char}

/-- The character is one of the two braces, or it stands between them. -/
theorem cases_of_write_eq (written : rule.toJson.write 1 = front ++ letter :: back) :
    front = [] ∧ back = rule.inside ++ ['}'] ∨
      front = '{' :: rule.inside ∧ back = [] ∨
      ∃ left right, rule.inside = left ++ letter :: right ∧ front = '{' :: left ∧
        back = right ++ ['}'] := by
  rw [write_toJson] at written
  rcases List.cons_eq_append_iff.mp written with ⟨rfl, found⟩ | ⟨left, rfl, rest⟩
  · obtain ⟨_, same⟩ := List.cons.inj found
    exact .inl ⟨rfl, same⟩
  rcases split_append rest with ⟨right, inside, rfl⟩ | ⟨beyond, rfl, last⟩
  · exact .inr (.inr ⟨left, right, inside, rfl, rfl⟩)
  · obtain ⟨rfl, _, rfl⟩ := split_singleton last
    exact .inr (.inl ⟨by rw [List.append_nil], rfl⟩)

end Rule

namespace Report

variable {before after : List Rule} {rule : Rule} {front back : List Char} {letter : Char}

theorem rules_of_inside_damaged {left right : List Char}
    (boundedBefore : ∀ rule ∈ before, rule.excess? = none)
    (boundedAfter : ∀ rule ∈ after, rule.excess? = none)
    (written : rule.inside = left ++ letter :: right) :
    (ofText (Rule.opening before ++
        ('{' :: (left ++ right) ++ ['}'] ++ Rule.closing after))).rules =
      before ++ ((Record.read ('{' :: (left ++ right) ++ ['}'])).toOption.toList ++ after) := by
  have smaller := subset_of_missing written
  have noOpen : '{' ∉ left ++ right := fun inside => rule.open_not_mem_inside (smaller inside)
  have noClose : '}' ∉ left ++ right := fun inside => rule.close_not_mem_inside (smaller inside)
  have closed := Record.ofText_eq_iff_yields.mpr (Record.yields_object noOpen noClose)
  rw [rules_ofText_opening _ boundedBefore, rules_ofText_closing (by rw [closed]) boundedAfter,
    rules_ofText_object noOpen noClose]

theorem rules_of_opening_missing (rule : Rule)
    (boundedBefore : ∀ rule ∈ before, rule.excess? = none)
    (boundedAfter : ∀ rule ∈ after, rule.excess? = none) :
    (ofText (Rule.opening before ++ (rule.inside ++ ['}'] ++ Rule.closing after))).rules =
      before ++ after := by
  have noOpen : '{' ∉ rule.inside ++ ['}'] := by simp [rule.open_not_mem_inside]
  rw [rules_ofText_opening _ boundedBefore,
    rules_ofText_closing (by rw [Record.ofText_eq_of_not_mem noOpen]) boundedAfter,
    ofText_of_not_mem noOpen]
  rfl

theorem rules_of_closing_missing (rule : Rule) (after : List Rule)
    (boundedBefore : ∀ rule ∈ before, rule.excess? = none) :
    (ofText (Rule.opening before ++ ('{' :: rule.inside ++ Rule.closing after))).rules =
      before := by
  rw [rules_ofText_opening _ boundedBefore, List.cons_append,
    rules_ofText_unclosed (rule.balanced_inside.append (Rule.balanced_closing after)),
    List.append_nil]

/-- A character missing from one written record leaves the other rules as they are, unless it is
the closing brace of a record with others behind it: then all of those are lost. -/
theorem rules_of_character_missing (before after : List Rule)
    (bounded : ∀ other ∈ before ++ rule :: after, other.maxStay.toNat ≤ DayCount.recordLimit ∧
      other.processing.toNat ≤ DayCount.recordLimit)
    (written : rule.toJson.write 1 = front ++ letter :: back) :
    Rule.renderAll (before ++ rule :: after) =
        Rule.opening before ++ (front ++ letter :: back ++ Rule.closing after) ∧
      (back ≠ [] ∨ after = [] → ∃ found : Option Rule,
        (ofText (Rule.opening before ++ (front ++ back ++ Rule.closing after))).rules =
          before ++ (found.toList ++ after)) ∧
      (back = [] →
        (ofText (Rule.opening before ++ (front ++ back ++ Rule.closing after))).rules =
          before) := by
  have boundedBefore : ∀ rule ∈ before, rule.excess? = none := fun other inside =>
    Rule.excess?_eq_none_iff.mpr (bounded other (by simp [inside]))
  have boundedAfter : ∀ rule ∈ after, rule.excess? = none := fun other inside =>
    Rule.excess?_eq_none_iff.mpr (bounded other (by simp [inside]))
  refine ⟨by rw [Rule.renderAll_append_cons, written], ?_⟩
  rcases Rule.cases_of_write_eq written with
    ⟨rfl, rfl⟩ | ⟨rfl, rfl⟩ | ⟨left, right, inside, rfl, rfl⟩
  · exact ⟨fun _ => ⟨none, rules_of_opening_missing _ boundedBefore boundedAfter⟩, by simp⟩
  · have swallowed := rules_of_closing_missing rule after boundedBefore
    rw [List.append_nil]
    refine ⟨fun spared => ⟨none, ?_⟩, fun _ => swallowed⟩
    have nothing : after = [] := spared.resolve_left (fun nonempty => nonempty rfl)
    simpa [nothing] using swallowed
  · have kept := rules_of_inside_damaged boundedBefore boundedAfter inside
    refine ⟨fun _ => ⟨(Record.read ('{' :: (left ++ right) ++ ['}'])).toOption, ?_⟩, by simp⟩
    simpa using kept

theorem rules_of_character_missing_bracket :
    let first : Rule :=
      { destination := .uk, passport := .usa, purpose := .business, maxStay := 180
        visaRequired := false, category := .travelAuthorization, kind := .none, documents := []
        processing := 3 }
    let broken : Rule :=
      { destination := .japan, passport := .india, purpose := .work, maxStay := 2147483647
        visaRequired := true, category := .electronic, kind := .work
        documents := [.photo, .passport], processing := 0 }
    let front := ("\x7b\n    \"destination\": \"JAPAN\",\n".toList ++
      "    \"passportCountry\": \"INDIA\",\n    \"purpose\": \"WORK\",\n".toList ++
      "    \"maxStayDays\": 2147483647,\n".toList ++
      "    \"visaRequired\": true,\n    \"visaCategory\": \"E_VISA\",\n".toList ++
      "    \"visaType\": \"WORK\",\n    \"documents\": ".toList)
    let back := ("\n      \"PHOTO\",\n      \"PASSPORT\"\n    ],\n".toList ++
      "    \"processingDays\": 0\n  \x7d".toList)
    broken.toJson.write 1 = front ++ '[' :: back ∧ ∃ found : Option Rule,
      (ofText (Rule.opening [first] ++ (front ++ back ++ Rule.closing [first]))).rules =
        [first] ++ (found.toList ++ [first]) := by
  intro first broken front back
  have written : broken.toJson.write 1 = front ++ '[' :: back := by decide +kernel
  have kept := rules_of_character_missing [first] [first] (by decide) written
  exact ⟨written, kept.2.1 (.inl (by decide))⟩

/-- That a record is broken can keep the others from being read. -/
theorem rules_lost_behind_unclosed :
    let broken : Rule :=
      { destination := .japan, passport := .usa, purpose := .tourism, maxStay := 90
        visaRequired := false, category := .visaFree, kind := .none, documents := []
        processing := 0 }
    let other : Rule :=
      { destination := .uk, passport := .usa, purpose := .business, maxStay := 180
        visaRequired := false, category := .travelAuthorization, kind := .none, documents := []
        processing := 3 }
    Rule.renderAll [broken, other] =
        Rule.opening [] ++ ('{' :: broken.inside ++ '}' :: Rule.closing [other]) ∧
      broken.toJson.write 1 = '{' :: broken.inside ++ ['}'] ∧
      other ∉
        (ofText (Rule.opening [] ++ ('{' :: broken.inside ++ Rule.closing [other]))).rules := by
  intro broken other
  refine ⟨?_, broken.write_toJson, ?_⟩
  · rw [show [broken, other] = [] ++ broken :: [other] from rfl, Rule.renderAll_append_cons,
      Rule.write_toJson]
    simp
  · rw [rules_of_closing_missing broken [other] fun _ inside => absurd inside List.not_mem_nil]
    exact List.not_mem_nil

end Report

end Visa
