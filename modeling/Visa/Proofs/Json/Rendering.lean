import Visa.Json.Value
import Visa.Proofs.Json.Tokens

namespace Visa.Json.Value

/-! The written form of a value as a spelling of tokens: line breaks and indentation are white
space in front of tokens, and a text that needs no escapes stands in its literal as it is. -/

open Token (AllSpace Spelled)
open Draft (itemTokens memberTokens separated)

/-! ## The draft of a value -/

mutual

def draft : Value → Draft
  | .null => .null
  | .bool value => .bool value
  | .number value => .number (.natural value)
  | .string text => .string ⟨.ok text, none⟩
  | .list items => .list (itemDrafts items) none
  | .object members => .object (memberDrafts members) none

def itemDrafts : List Value → List Draft
  | [] => []
  | item :: rest => draft item :: itemDrafts rest

def memberDrafts : List (String × Value) → List (Draft × Draft)
  | [] => []
  | (key, item) :: rest => (.string ⟨.ok key, none⟩, draft item) :: memberDrafts rest

end

theorem itemDrafts_eq_map (items : List Value) : itemDrafts items = items.map draft := by
  induction items with
  | nil => rfl
  | cons item rest ih => rw [itemDrafts, ih, List.map_cons]

theorem memberDrafts_eq_map (members : List (String × Value)) :
    memberDrafts members =
      members.map fun member => (.string ⟨.ok member.1, none⟩, member.2.draft) := by
  induction members with
  | nil => rfl
  | cons member rest ih => rw [memberDrafts, ih, List.map_cons]

theorem tokens_draft_ne_nil (value : Value) : value.draft.tokens ≠ [] := by
  cases value <;> simp [draft, Draft.tokens]

/-! ## Texts without escapes -/

def Unescaped (text : String) : Prop := ∀ letter ∈ text.toList, Literal.escaped letter = [letter]

inductive Plain : Value → Prop
  | null : Plain .null
  | bool (value : Bool) : Plain (.bool value)
  | number (value : Nat) : Plain (.number value)
  | string {text : String} (unescaped : Unescaped text) : Plain (.string text)
  | list {items : List Value} (plain : ∀ item ∈ items, Plain item) : Plain (.list items)
  | object {members : List (String × Value)} (keys : ∀ member ∈ members, Unescaped member.1)
      (values : ∀ member ∈ members, Plain member.2) : Plain (.object members)

theorem Unescaped.flatMap_escaped {text : String} (unescaped : Unescaped text) :
    text.toList.flatMap Literal.escaped = text.toList := by
  unfold Unescaped at unescaped
  generalize text.toList = letters at unescaped
  induction letters with
  | nil => rfl
  | cons letter rest ih =>
      obtain ⟨first, later⟩ := List.forall_mem_cons.mp unescaped
      rw [List.flatMap_cons, first, ih later, List.singleton_append]

theorem write_of_unescaped {text : String} (unescaped : Unescaped text) :
    Literal.write text.toList = '"' :: (text.toList ++ ['"']) := by
  rw [Literal.write, unescaped.flatMap_escaped]
  rfl

theorem spelled_literal {text : String} (unescaped : Unescaped text) :
    Spelled [.string ⟨.ok text, none⟩] (Literal.write text.toList) := by
  have quoteFree : '"' ∉ text.toList := fun member => by
    have escaped := unescaped '"' member
    revert escaped
    decide
  have spelled := Spelled.of_lexeme (.string quoteFree)
  rwa [String.ofList_toList, ← write_of_unescaped unescaped] at spelled

/-! ## Layout -/

theorem allSpace_newline (level : Nat) : AllSpace (newline level) := by
  intro letter member
  rw [newline, List.mem_cons, List.mem_replicate] at member
  rcases member with rfl | ⟨_, rfl⟩ <;> rfl

theorem spelled_number (value : Nat) :
    Spelled [.number (.natural value)] (Nat.toDigits 10 value) := by
  have digits : ∀ letter ∈ Nat.toDigits 10 value, letter.isDigit := fun letter member =>
    Nat.isDigit_of_mem_toDigits (by decide) (by decide) member
  refine .of_lexeme (.number Nat.toDigits_ne_nil ?_ ?_ ?_)
  · exact fun letter member => Number.isNumeral_of_isDigit (digits letter member)
  · rintro _ ⟨⟩
    rfl
  · exact fun letter first => .inl (digits letter (List.mem_of_head? first))

theorem spelled_writeItems {items : List Value} (level : Nat)
    (each : ∀ item ∈ items, Spelled item.draft.tokens (item.write level)) :
    Spelled ((items.map fun item => item.draft.tokens).flatMap fun later => .comma :: later)
      (writeItems level items) := by
  induction items with
  | nil => exact .nil
  | cons item rest ih =>
      obtain ⟨first, later⟩ := List.forall_mem_cons.mp each
      have spaced := first.space_append (allSpace_newline level) (tokens_draft_ne_nil item)
      have spelled := (spaced.cons_mark .comma rfl).append (ih later)
      rw [writeItems]
      simpa using spelled

theorem spelled_member {member : String × Value} {level : Nat} (key : Unescaped member.1)
    (spelled : Spelled member.2.draft.tokens (member.2.write level)) :
    Spelled (.string ⟨.ok member.1, none⟩ :: .colon :: member.2.draft.tokens)
      (Literal.write member.1.toList ++ [':', ' '] ++ member.2.write level) := by
  have space : AllSpace [' '] := by simp [AllSpace, Token.isSpace]
  have behind := (spelled.space_append space (tokens_draft_ne_nil member.2)).cons_mark .colon rfl
  have whole := (spelled_literal key).append behind
  simpa using whole

theorem spelled_writeMembers {members : List (String × Value)} (level : Nat)
    (keys : ∀ member ∈ members, Unescaped member.1)
    (each : ∀ member ∈ members, Spelled member.2.draft.tokens (member.2.write level)) :
    Spelled ((memberTokens (memberDrafts members)).flatMap fun later => .comma :: later)
      (writeMembers level members) := by
  induction members with
  | nil => exact .nil
  | cons member rest ih =>
      obtain ⟨key, item⟩ := member
      obtain ⟨firstKey, laterKeys⟩ := List.forall_mem_cons.mp keys
      obtain ⟨first, later⟩ := List.forall_mem_cons.mp each
      have spaced := (spelled_member firstKey first).space_append (allSpace_newline level) (by simp)
      have spelled := (spaced.cons_mark .comma rfl).append (ih laterKeys later)
      rw [writeMembers, memberDrafts, memberTokens, Draft.tokens, List.flatMap_cons]
      simpa using spelled

/-- The written form of a value is a spelling of the tokens of its draft. -/
theorem spelled_write {value : Value} (plain : value.Plain) (level : Nat) :
    Spelled value.draft.tokens (value.write level) := by
  induction plain generalizing level with
  | null => exact .of_lexeme .null
  | bool value =>
      have spelled := Spelled.of_lexeme (.bool value)
      cases value <;> exact spelled
  | number value => exact spelled_number value
  | string unescaped => exact spelled_literal unescaped
  | @list items plain ih =>
      have closing : Spelled [.listClose] (newline level ++ [']']) :=
        (Spelled.nil.cons_mark .listClose rfl).space_append (allSpace_newline level) (by simp)
      cases items with
      | nil => exact (Spelled.nil.cons_mark .listClose rfl).cons_mark .listOpen rfl
      | cons item rest =>
          obtain ⟨first, later⟩ := List.forall_mem_cons.mp ih
          have spaced := (first (level + 1)).space_append (allSpace_newline (level + 1))
            (tokens_draft_ne_nil item)
          have items := spelled_writeItems (level + 1) fun other inside =>
            later other inside (level + 1)
          have spelled := (spaced.append (items.append closing)).cons_mark .listOpen rfl
          rw [draft, Draft.tokens, Draft.itemTokens_eq_map, itemDrafts_eq_map, List.map_map,
            List.map_cons, Draft.separated_cons, write]
          simpa [Function.comp_def] using spelled
  | @object members keys plain ih =>
      have closing : Spelled [.objectClose] (newline level ++ ['}']) :=
        (Spelled.nil.cons_mark .objectClose rfl).space_append (allSpace_newline level) (by simp)
      cases members with
      | nil => exact (Spelled.nil.cons_mark .objectClose rfl).cons_mark .objectOpen rfl
      | cons member rest =>
          obtain ⟨key, item⟩ := member
          obtain ⟨firstKey, laterKeys⟩ := List.forall_mem_cons.mp keys
          obtain ⟨first, later⟩ := List.forall_mem_cons.mp ih
          have spaced := (spelled_member firstKey (first (level + 1))).space_append
            (allSpace_newline (level + 1)) (by simp)
          have members := spelled_writeMembers (level + 1) laterKeys fun other inside =>
            later other inside (level + 1)
          have spelled := (spaced.append (members.append closing)).cons_mark .objectOpen rfl
          rw [draft, Draft.tokens, memberDrafts, memberTokens, Draft.separated_cons, write]
          simpa [Draft.tokens] using spelled

end Visa.Json.Value
