import Visa.Json.Draft
import Visa.Proofs.Json.Scanning

namespace Visa.Json.Draft

/-! A draft without flaws is read from exactly one sequence of tokens: while the machine runs, its
stack of open brackets accounts for every token that it has gone over. -/

/-! ## The tokens of a draft -/

def separated (pieces : List (List Token)) : List Token := [Token.comma].intercalate pieces

/-- Every piece with a comma behind it, as long as more is to come. -/
def continued (pieces : List (List Token)) : List Token := pieces.flatMap fun piece =>
  piece ++ [Token.comma]

theorem separated_cons_of_ne_nil (piece : List Token) {later : List (List Token)}
    (more : later ≠ []) :
    separated (piece :: later) = piece ++ .comma :: separated later := by
  rw [separated, List.intercalate_cons_of_ne_nil more, List.append_assoc]
  rfl

theorem separated_cons (piece : List Token) (later : List (List Token)) :
    separated (piece :: later) = piece ++ later.flatMap fun other => .comma :: other := by
  induction later generalizing piece with
  | nil => simp [separated]
  | cons next rest ih =>
      rw [separated_cons_of_ne_nil piece (by simp), ih next, List.flatMap_cons, List.cons_append]

theorem separated_append_cons (before : List (List Token)) (piece : List Token)
    (after : List (List Token)) :
    separated (before ++ piece :: after) = continued before ++ separated (piece :: after) := by
  induction before with
  | nil => rfl
  | cons first rest ih =>
      rw [List.cons_append, separated_cons_of_ne_nil first (by simp), ih]
      simp [continued]

theorem separated_concat (pieces : List (List Token)) (last : List Token) :
    separated (pieces ++ [last]) = continued pieces ++ last := by
  rw [separated_append_cons, separated_cons, List.flatMap_nil, List.append_nil]

theorem continued_concat (pieces : List (List Token)) (last : List Token) :
    continued (pieces ++ [last]) = continued pieces ++ (last ++ [Token.comma]) := by
  simp [continued]

mutual

/-- A flawed draft has no tokens of its own where it has no value. -/
def tokens : Draft → List Token
  | .null => [.null]
  | .bool value => [.bool value]
  | .number value => [.number value]
  | .string text => [.string text]
  | .list items _ => .listOpen :: (separated (itemTokens items) ++ [.listClose])
  | .object members _ => .objectOpen :: (separated (memberTokens members) ++ [.objectClose])
  | .broken _ | .unfinished | .absent => []

def itemTokens : List Draft → List (List Token)
  | [] => []
  | item :: rest => tokens item :: itemTokens rest

def memberTokens : List (Draft × Draft) → List (List Token)
  | [] => []
  | (key, value) :: rest => (tokens key ++ .colon :: tokens value) :: memberTokens rest

end

theorem itemTokens_eq_map (items : List Draft) : itemTokens items = items.map tokens := by
  induction items with
  | nil => rfl
  | cons item rest ih => rw [itemTokens, ih, List.map_cons]

theorem memberTokens_eq_map (members : List (Draft × Draft)) :
    memberTokens members =
      members.map fun member => member.1.tokens ++ .colon :: member.2.tokens := by
  induction members with
  | nil => rfl
  | cons member rest ih => rw [memberTokens, ih, List.map_cons]

/-! ## Soundness -/

/-- The draft is a whole value. -/
inductive Sound : Draft → Prop
  | null : Sound .null
  | bool (value : Bool) : Sound (.bool value)
  | number (value : Number) : Sound (.number value)
  | string {text : Literal} (sound : Token.Sound (.string text)) : Sound (.string text)
  | list {items : List Draft} (sound : ∀ item ∈ items, Sound item) : Sound (.list items none)
  | object {members : List (Draft × Draft)} (keys : ∀ member ∈ members, Sound member.1)
      (values : ∀ member ∈ members, Sound member.2) : Sound (.object members none)

theorem mem_separated {token : Token} {pieces : List (List Token)}
    (member : token ∈ separated pieces) : token = .comma ∨ ∃ piece ∈ pieces, token ∈ piece := by
  induction pieces with
  | nil => simp [separated] at member
  | cons piece rest ih =>
      rcases List.eq_nil_or_concat rest with rfl | ⟨front, last, rfl⟩
      · exact .inr ⟨piece, by simp, by simpa [separated] using member⟩
      · rw [separated_cons_of_ne_nil piece (by simp)] at member
        simp only [List.mem_append, List.mem_cons] at member
        rcases member with inPiece | comma | later
        · exact .inr ⟨piece, by simp, inPiece⟩
        · exact .inl comma
        · rcases ih later with comma | ⟨other, inRest, inOther⟩
          · exact .inl comma
          · exact .inr ⟨other, List.mem_cons_of_mem _ inRest, inOther⟩

theorem subset_separated {piece : List Token} {pieces : List (List Token)}
    (member : piece ∈ pieces) : piece ⊆ separated pieces := by
  obtain ⟨before, after, rfl⟩ := List.append_of_mem member
  intro token inside
  rw [separated_append_cons, separated_cons]
  exact List.mem_append_right _ (List.mem_append_left _ inside)

theorem Sound.of_mem_tokens {draft : Draft} (sound : draft.Sound) :
    ∀ token ∈ draft.tokens, token.Sound := by
  induction sound with
  | null | bool | number => simp [tokens, Token.Sound]
  | string sound => simpa [tokens] using sound
  | list sound ih =>
      intro token member
      simp only [tokens, itemTokens_eq_map, List.mem_cons, List.mem_append, List.not_mem_nil,
        or_false] at member
      rcases member with rfl | inside | rfl
      · trivial
      · rcases mem_separated inside with rfl | ⟨piece, inMap, inPiece⟩
        · trivial
        · obtain ⟨item, inItems, rfl⟩ := List.mem_map.mp inMap
          exact ih item inItems token inPiece
      · trivial
  | object keys values keysIH valuesIH =>
      intro token member
      simp only [tokens, memberTokens_eq_map, List.mem_cons, List.mem_append, List.not_mem_nil,
        or_false] at member
      rcases member with rfl | inside | rfl
      · trivial
      · rcases mem_separated inside with rfl | ⟨piece, inMap, inPiece⟩
        · trivial
        · obtain ⟨entry, inMembers, rfl⟩ := List.mem_map.mp inMap
          simp only [List.mem_append, List.mem_cons] at inPiece
          rcases inPiece with inKey | rfl | inValue
          · exact keysIH entry inMembers token inKey
          · trivial
          · exact valuesIH entry inMembers token inValue
      · trivial

end Visa.Json.Draft
