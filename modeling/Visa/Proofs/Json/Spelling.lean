import Visa.Json.Token
import Visa.Proofs.Json.Number

namespace Visa.Json

/-! JSON texts without escapes, as their tokens spell them. White space may stand in front of
every token; a literal stands for exactly the text between its quotes. -/

namespace Token

def mark? : Token → Option Char
  | .listOpen => some '['
  | .listClose => some ']'
  | .objectOpen => some '{'
  | .objectClose => some '}'
  | .comma => some ','
  | .colon => some ':'
  | _ => none

def boolText : Bool → List Char
  | true => "true".toList
  | false => "false".toList

inductive Lexeme : Token → List Char → Prop
  | mark {token : Token} {letter : Char} (found : token.mark? = some letter) : Lexeme token [letter]
  | null : Lexeme .null "null".toList
  | bool (value : Bool) : Lexeme (.bool value) (boolText value)
  | number {value : Number} {literal : List Char} (nonempty : literal ≠ [])
      (numerals : ∀ letter ∈ literal, Number.isNumeral letter)
      (decimal : ∀ natural, value = .natural natural → literal = Nat.toDigits 10 natural)
      (started : ∀ letter ∈ literal.head?, Number.Starts letter) : Lexeme (.number value) literal
  | string {text : List Char} (plain : '"' ∉ text) :
      Lexeme (.string ⟨.ok (String.ofList text), none⟩) ('"' :: (text ++ ['"']))

theorem Lexeme.ne_nil {token : Token} {lexeme : List Char} (form : Lexeme token lexeme) :
    lexeme ≠ [] := by
  cases form with
  | number nonempty => exact nonempty
  | bool value => cases value <;> decide
  | mark | null | string => simp

def AllSpace (text : List Char) : Prop := ∀ letter ∈ text, isSpace letter

namespace AllSpace

variable {space later : List Char} {letter : Char}

theorem nil : AllSpace [] := fun _ member => absurd member List.not_mem_nil

theorem append (blank : AllSpace space) (blankLater : AllSpace later) :
    AllSpace (space ++ later) := by
  intro letter member
  rcases List.mem_append.mp member with first | second
  · exact blank letter first
  · exact blankLater letter second

theorem not_mem (blank : AllSpace space) (solid : isSpace letter = false) : letter ∉ space := by
  intro member
  rw [blank letter member] at solid
  contradiction

end AllSpace

inductive Spelled : List Token → List Char → Prop
  | nil : Spelled [] []
  | cons {token : Token} {tokens : List Token} {space lexeme text : List Char}
      (blank : AllSpace space) (form : Lexeme token lexeme) (more : Spelled tokens text) :
      Spelled (token :: tokens) (space ++ (lexeme ++ text))

namespace Spelled

variable {token : Token} {first second tokens : List Token} {text : List Char}

theorem append {left right : List Char} (spelledFirst : Spelled first left)
    (spelledSecond : Spelled second right) : Spelled (first ++ second) (left ++ right) := by
  induction spelledFirst with
  | nil => exact spelledSecond
  | cons blank form more ih =>
      rw [List.append_assoc, List.append_assoc]
      exact .cons blank form ih

theorem exists_of_append (spelled : Spelled (first ++ second) text) :
    ∃ left right, text = left ++ right ∧ Spelled first left ∧ Spelled second right := by
  induction first generalizing text with
  | nil => exact ⟨[], text, rfl, .nil, spelled⟩
  | cons token first ih =>
      cases spelled with
      | cons blank form more =>
          obtain ⟨left, right, rfl, spelledFirst, spelledSecond⟩ := ih more
          exact ⟨_, right, by rw [List.append_assoc, List.append_assoc],
            .cons blank form spelledFirst, spelledSecond⟩

theorem eq_nil (spelled : Spelled [] text) : text = [] := by
  cases spelled
  rfl

theorem of_lexeme (form : Lexeme token text) : Spelled [token] text := by
  have spelled := Spelled.cons .nil form .nil
  rwa [List.nil_append, List.append_nil] at spelled

theorem cons_mark (mark : Token) {letter : Char} (isMark : mark.mark? = some letter)
    (spelled : Spelled tokens text) : Spelled (mark :: tokens) (letter :: text) :=
  .cons .nil (.mark isMark) spelled

/-- White space in front of a token belongs to it. -/
theorem space_append {space : List Char} (blank : AllSpace space) (nonempty : tokens ≠ [])
    (spelled : Spelled tokens text) : Spelled tokens (space ++ text) := by
  cases spelled with
  | nil => contradiction
  | cons blankLead form more =>
      rw [← List.append_assoc]
      exact .cons (blank.append blankLead) form more

theorem exists_of_mark {letter : Char} (spelled : Spelled (token :: tokens) text)
    (mark : token.mark? = some letter) :
    ∃ space rest, text = space ++ letter :: rest ∧ AllSpace space ∧ Spelled tokens rest := by
  cases spelled with
  | @cons _ _ space _ rest blank form more =>
      cases form with
      | mark found =>
          cases mark.symm.trans found
          exact ⟨space, rest, rfl, blank, more⟩
      | null | bool | number | string => contradiction

theorem exists_of_string {literal : Literal} (spelled : Spelled (.string literal :: tokens) text) :
    ∃ space inside rest, text = space ++ '"' :: (inside ++ '"' :: rest) ∧
      literal = ⟨.ok (String.ofList inside), none⟩ ∧ '"' ∉ inside ∧ AllSpace space ∧
      Spelled tokens rest := by
  cases spelled with
  | @cons _ _ space _ rest blank form more =>
      cases form with
      | mark found => contradiction
      | @string inside plain =>
          exact ⟨space, inside, rest, by simp, rfl, plain, blank, more⟩

theorem exists_of_text {word : String} {ending : Option Flaw}
    (spelled : Spelled (.string ⟨.ok word, ending⟩ :: tokens) text) :
    ∃ space rest, text = space ++ '"' :: (word.toList ++ '"' :: rest) ∧ '"' ∉ word.toList ∧
      AllSpace space ∧ Spelled tokens rest := by
  obtain ⟨space, inside, rest, same, literal, plain, blank, more⟩ := spelled.exists_of_string
  rw [Literal.mk.injEq, Except.ok.injEq] at literal
  rw [literal.1, String.toList_ofList]
  exact ⟨space, rest, same, plain, blank, more⟩

theorem exists_of_natural {value : Nat}
    (spelled : Spelled (.number (.natural value) :: tokens) text) :
    ∃ space rest, text = space ++ (Nat.toDigits 10 value ++ rest) ∧ AllSpace space ∧
      Spelled tokens rest := by
  cases spelled with
  | @cons _ _ space literal rest blank form more =>
      cases form with
      | mark found => contradiction
      | number nonempty numerals decimal =>
          exact ⟨space, rest, by rw [decimal value rfl], blank, more⟩

theorem exists_of_bool {value : Bool} (spelled : Spelled (.bool value :: tokens) text) :
    ∃ space rest, text = space ++ (boolText value ++ rest) ∧ AllSpace space ∧
      Spelled tokens rest := by
  cases spelled with
  | @cons _ _ space literal rest blank form more =>
      cases form with
      | mark found => contradiction
      | bool => exact ⟨space, rest, rfl, blank, more⟩

end Spelled

end Token

end Visa.Json
