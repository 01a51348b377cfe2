import Visa.Fault

namespace Visa

/-! Closed vocabularies: finite types whose members are written as fixed tokens. -/

/-- `all` lists every member, in declaration order, and no two of its entries share a token. -/
class Vocabulary (α : Type) where
  subject : String
  all : List α
  token : α → String
  mem_all : ∀ member : α, member ∈ all
  distinct : (all.map token).Nodup

namespace Vocabulary

variable {α : Type} [Vocabulary α]

private theorem eq_of_token_eq {members : List α} (distinct : (members.map token).Nodup)
    {left right : α} (leftMember : left ∈ members) (rightMember : right ∈ members)
    (same : token left = token right) : left = right := by
  induction members with
  | nil => contradiction
  | cons head rest ih =>
      simp only [List.map_cons, List.nodup_cons, List.mem_map, not_exists, not_and] at distinct
      rcases List.mem_cons.mp leftMember with rfl | leftRest
      · rcases List.mem_cons.mp rightMember with rfl | rightRest
        · rfl
        · exact absurd same.symm (distinct.1 right rightRest)
      · rcases List.mem_cons.mp rightMember with rfl | rightRest
        · exact absurd same (distinct.1 left leftRest)
        · exact ih distinct.2 leftRest rightRest

theorem token_injective {left right : α} (same : token left = token right) : left = right :=
  eq_of_token_eq distinct (mem_all left) (mem_all right) same

def ofToken? (token : String) : Option α :=
  (all (α := α)).find? fun member => Vocabulary.token member == token

/-- Reading is exact: letter case counts, and nothing outside the vocabulary is guessed at. -/
def read (token : String) : Except Fault α :=
  match ofToken? token with
  | some member => .ok member
  | none => .error (.unknownToken (subject α) token)

/-- The place of a member in declaration order. -/
def ordinal [DecidableEq α] (member : α) : Nat := (all (α := α)).idxOf member

/-- Sorts by declaration order; equal members keep their multiplicity. -/
def sorted [DecidableEq α] (members : List α) : List α :=
  members.mergeSort fun left right => ordinal left ≤ ordinal right

theorem ofToken?_token (member : α) : ofToken? (token member) = some member := by
  cases found : ofToken? (α := α) (token member) with
  | none =>
      have absent := List.find?_eq_none.mp found member (mem_all member)
      simp at absent
  | some other =>
      have same := List.find?_some found
      exact congrArg some (token_injective (beq_iff_eq.mp same))

theorem ofToken?_eq_some_iff {text : String} {member : α} :
    ofToken? text = some member ↔ token member = text := by
  constructor
  · intro found
    have same : (token member == text) = true :=
      List.find?_some (p := fun other : α => token other == text) found
    exact beq_iff_eq.mp same
  · rintro rfl
    exact ofToken?_token member

theorem read_token (member : α) : read (token member) = .ok member := by
  simp only [read, ofToken?_token]

end Vocabulary

end Visa
