import Visa.Proofs.Agreement
import Visa.Proofs.Lines
import Visa.Proofs.Writing
import Visa.Run

namespace Visa

/-! Written rules read back. A list of rules is read as the same list, except for the rules with a
count beyond the greatest that a record can give; and no text gives such a rule. -/

open Record (Yields)

namespace Rule

variable (rules : List Rule)

theorem yields_writeItems (level : Nat) :
    Yields (Json.Value.writeItems level (rules.map toJson))
      (rules.map fun rule => rule.toJson.write level) := by
  induction rules with
  | nil => exact Record.yields_of_not_mem List.not_mem_nil
  | cons rule rest ih =>
      have free : '{' ∉ Json.Value.newline level := (Json.Value.allSpace_newline level).not_mem rfl
      have comma : '{' ∉ ',' :: Json.Value.newline level := by simp [free]
      have yields := (Record.yields_of_not_mem comma).append ((rule.yields_write level).append ih)
      rw [List.map_cons, Json.Value.writeItems]
      simpa using yields

theorem yields_renderAll :
    Yields (renderAll rules) (rules.map fun rule => rule.toJson.write 1) := by
  cases rules with
  | nil => exact Record.yields_of_not_mem (by decide)
  | cons rule rest =>
      have opening : '{' ∉ '[' :: Json.Value.newline 1 := by decide
      have closing : '{' ∉ Json.Value.newline 0 ++ [']'] := by decide
      have yields := (Record.yields_of_not_mem opening).append
        ((rule.yields_write 1).append
          ((yields_writeItems rest 1).append (Record.yields_of_not_mem closing)))
      rw [renderAll, Json.Value.render, List.map_cons, Json.Value.write]
      simpa using yields

theorem forall₂_read_write :
    List.Forall₂ (fun record rule => Record.read record = fromRecord rule)
      (rules.map fun rule => rule.toJson.write 1) rules := by
  rw [List.forall₂_map_left_iff, List.forall₂_same]
  exact fun rule _ => rule.read_write 1

end Rule

/-! ## What is written is read -/

namespace Report

def ofWritten (rules : List Rule) : Report where
  rules := rules.filter fun rule => rule.excess?.isNone
  skipped := rules.zipIdx.filterMap fun (rule, index) =>
    rule.excess?.map fun reason => ⟨index, reason, String.ofList (snippet (rule.toJson.write 1))⟩

theorem ofText_of_yields {text : List Char} {records : List (List Char)}
    (yields : Yields text records) : ofText text = ofCut ⟨records, none⟩ := by
  rw [ofText, Record.ofText_eq_iff_yields.mpr yields]

theorem ofText_renderAll_eq_ofWritten (rules : List Rule) :
    ofText (Rule.renderAll rules) = ofWritten rules := by
  have paired : (rules.map fun rule => rule.toJson.write 1).zip rules =
      rules.map fun rule => (rule.toJson.write 1, rule) := by
    induction rules with
    | nil => rfl
    | cons rule rest ih => simp [ih]
  rw [ofText_of_yields (Rule.yields_renderAll rules),
    ofCut_of_fromRecord (Rule.forall₂_read_write rules), paired, List.zipIdx_map,
    List.filterMap_map]
  rfl

theorem ofText_renderAll_append {rules : List Rule} (trail : List Char)
    (bounded : ∀ rule ∈ rules, rule.excess? = none) (other : '{' ∉ trail) :
    ofText (Rule.renderAll rules ++ trail) = ⟨rules, []⟩ := by
  have yields := (Rule.yields_renderAll rules).append (Record.yields_of_not_mem other)
  rw [List.append_nil] at yields
  rw [ofText_of_yields yields, ofCut_of_bounded (Rule.forall₂_read_write rules) bounded]

theorem ofText_renderAll_of_bounded {rules : List Rule}
    (bounded : ∀ rule ∈ rules, rule.excess? = none) :
    ofText (Rule.renderAll rules) = ⟨rules, []⟩ := by
  have whole := ofText_renderAll_append [] bounded List.not_mem_nil
  rwa [List.append_nil] at whole

/-- A written list is read as the rules whose counts a record can give. The other rules are skipped
at their places, each for the first of its counts that is too great. -/
theorem ofText_renderAll (rules : List Rule) :
    (ofText (Rule.renderAll rules)).rules = (rules.filter fun rule =>
        rule.maxStay.toNat ≤ DayCount.recordLimit && rule.processing.toNat ≤ DayCount.recordLimit) ∧
      (ofText (Rule.renderAll rules)).skipped = (rules.zipIdx.filterMap fun (rule, index) =>
        rule.excess?.map fun reason =>
          ⟨index, reason, String.ofList (snippet (rule.toJson.write 1))⟩) ∧
      ((ofText (Rule.renderAll rules)).isClean ∧ (ofText (Rule.renderAll rules)).rules = rules ↔
        ∀ rule ∈ rules, rule.maxStay.toNat ≤ DayCount.recordLimit ∧
          rule.processing.toNat ≤ DayCount.recordLimit) := by
  refine ⟨?_, ?_, ?_, ?_⟩
  · rw [ofText_renderAll_eq_ofWritten, ofWritten]
    apply List.filter_congr
    intro rule _
    rw [Bool.eq_iff_iff, Option.isNone_iff_eq_none, Rule.excess?_eq_none_iff, Bool.and_eq_true,
      decide_eq_true_eq, decide_eq_true_eq]
  · rw [ofText_renderAll_eq_ofWritten, ofWritten]
  · rintro ⟨_, same⟩ rule inside
    rw [ofText_renderAll_eq_ofWritten, ofWritten] at same
    have kept := List.filter_eq_self.mp same rule inside
    exact Rule.excess?_eq_none_iff.mp (Option.isNone_iff_eq_none.mp kept)
  · intro bounded
    rw [ofText_renderAll_of_bounded fun rule inside =>
      Rule.excess?_eq_none_iff.mpr (bounded rule inside)]
    exact ⟨rfl, rfl⟩

end Report

/-! ## What is read can be written -/

namespace Record

theorem toNat_le_of_dayCount {field : Field} {text : List Char} {count : UInt32}
    (read : dayCount field text = .ok count) : count.toNat ≤ DayCount.recordLimit := by
  unfold dayCount at read
  cases found : DayCount.ofRecord? text with
  | none =>
      rw [found] at read
      contradiction
  | some other =>
      rw [found] at read
      cases read
      exact DayCount.toNat_le_of_ofRecord? found

theorem excess?_of_read {record : List Char} {rule : Rule} (read : Record.read record = .ok rule) :
    rule.excess? = none := by
  obtain ⟨members, _, interpreted⟩ := Outcome.bind_eq_ok_iff.mp read
  simp only [Members.toRule, Outcome.bind_eq_ok_iff] at interpreted
  obtain ⟨_, _, _, _, _, _, maxStay, foundMaxStay, _, _, _, _, _, _, processing, foundProcessing,
    same⟩ := interpreted
  cases same
  exact Rule.excess?_eq_none_iff.mpr
    ⟨toNat_le_of_dayCount foundMaxStay, toNat_le_of_dayCount foundProcessing⟩

end Record

namespace Report

theorem excess?_of_mem_rules (text : List Char) :
    ∀ rule ∈ (ofText text).rules, rule.excess? = none := by
  intro rule inside
  obtain ⟨record, _, kept⟩ := List.mem_filterMap.mp inside
  cases read : Record.read record with
  | error reason =>
      rw [read] at kept
      contradiction
  | ok other =>
      rw [read] at kept
      cases kept
      exact Record.excess?_of_read read

end Report

theorem Source.excess?_of_mem_load (source : Source) :
    ∀ rule ∈ source.load.rules, rule.excess? = none := by
  cases found : source.content with
  | ok text =>
      have loaded : source.load = .ofText text := by rw [load, found]
      rw [loaded]
      exact Report.excess?_of_mem_rules text
  | error reason =>
      have loaded : source.load = .empty := by rw [load, found]
      rw [loaded]
      exact fun rule inside => absurd inside List.not_mem_nil

namespace World

/-- What is found after a text has been saved to a file. -/
def saving (world : World) (path text : String) : World :=
  { world with
    file := fun other => if other = path then .ok text.toUTF8.data.toList else world.file other }

theorem text_saving (world : World) (path text : String) :
    (world.saving path text).text path = .ok text.toList := by
  have bytes : (world.saving path text).file path = .ok (Interview.encode text) := if_pos rfl
  simp only [World.text, bytes, bind, Except.bind, Interview.fromUTF8?_encode]

end World

/-! ## The normal form -/

end Visa
