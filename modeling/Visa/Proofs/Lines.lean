import Mathlib.Data.List.TakeWhile
import Visa.Interview

namespace Visa.Interview

/-! The lines of an input, and the texts that they hold. -/

variable {line rest unread input : List UInt8} {first second lines : List (List UInt8)}

/-! ## Taking lines -/

/-- The input starts with these lines, and the rest of it is unread. A line ends behind its newline;
only one behind which there is nothing may lack it. -/
inductive Taken : List (List UInt8) → List UInt8 → List UInt8 → Prop
  | nothing (input : List UInt8) : Taken [] input input
  | ended {line rest unread input : List UInt8} {lines : List (List UInt8)}
      (whole : newline ∉ line) (start : input = line ++ newline :: rest)
      (later : Taken lines rest unread) : Taken ((line ++ [newline]) :: lines) input unread
  | last {line : List UInt8} (whole : newline ∉ line) (nonempty : line ≠ []) : Taken [line] line []

theorem ne_newline_of_mem (whole : newline ∉ line) : ∀ byte ∈ line, byte != newline :=
  fun _ member => bne_iff_ne.mpr fun same => whole (same ▸ member)

theorem splitLine_ended (whole : newline ∉ line) (rest : List UInt8) :
    splitLine (line ++ newline :: rest) = (line ++ [newline], rest) := by
  have inside := ne_newline_of_mem whole
  rw [splitLine, List.dropWhile_append_of_pos inside, List.dropWhile_cons, if_neg (by decide),
    List.takeWhile_append_of_pos inside, List.takeWhile_cons, if_neg (by decide), List.append_nil]

theorem splitLine_last (whole : newline ∉ line) : splitLine line = (line, []) := by
  have inside := ne_newline_of_mem whole
  rw [splitLine, List.dropWhile_eq_nil_iff.mpr inside]

theorem taken_nil_iff : Taken [] input unread ↔ input = unread := by
  constructor
  · rintro ⟨⟩
    rfl
  · rintro rfl
    exact .nothing input

theorem taken_cons_iff :
    Taken (line :: lines) input unread ↔
      input ≠ [] ∧ (splitLine input).1 = line ∧ Taken lines (splitLine input).2 unread := by
  constructor
  · intro taken
    cases taken with
    | ended whole start later =>
        rw [start, splitLine_ended whole]
        exact ⟨List.append_ne_nil_of_right_ne_nil _ (List.cons_ne_nil _ _), rfl, later⟩
    | last whole nonempty =>
        rw [splitLine_last whole]
        exact ⟨nonempty, rfl, .nothing []⟩
  · rintro ⟨nonempty, rfl, later⟩
    by_cases inside : newline ∈ input
    · obtain ⟨front, back, start, whole⟩ := List.eq_append_cons_of_mem inside
      rw [start, splitLine_ended whole] at later ⊢
      exact .ended whole rfl later
    · rw [splitLine_last inside] at later ⊢
      cases later with
      | nothing => exact .last inside nonempty
      | ended _ start => simp at start
      | last _ filled => exact absurd rfl filled

theorem taken_append_iff :
    Taken (first ++ second) input unread ↔
      ∃ between, Taken first input between ∧ Taken second between unread := by
  induction first generalizing input with
  | nil => simp only [List.nil_append, taken_nil_iff, exists_eq_left']
  | cons line rest ih =>
      simp only [List.cons_append, taken_cons_iff, ih, and_assoc, exists_and_left]

/-! ## Texts -/

/-- The bytes that stand for a text. -/
def encode (text : String) : List UInt8 := text.toUTF8.data.toList

theorem toByteArray_encode (text : String) : (encode text).toByteArray = text.toByteArray := by
  apply ByteArray.ext
  rw [encode, List.data_toByteArray, Array.toArray_toList, String.toUTF8_eq_toByteArray]

theorem encode_append (first second : String) :
    encode (first ++ second) = encode first ++ encode second := by
  simp [encode]

theorem encode_eq_flatMap (text : String) :
    encode text = text.toList.flatMap String.utf8EncodeChar := by
  rw [encode, String.toUTF8_eq_toByteArray, ← String.utf8Encode_toList, List.utf8Encode,
    List.data_toByteArray]

theorem fromUTF8?_encode (text : String) :
    String.fromUTF8? (encode text).toByteArray = some text := by
  rw [toByteArray_encode, String.fromUTF8?, dif_pos text.isValidUTF8]
  rfl

theorem decodeLine_encode (text : String) : decodeLine (encode text) = .ok text := by
  rw [decodeLine, fromUTF8?_encode]

theorem decodeLine_of_ne_encode (noText : ∀ text, encode text ≠ line) :
    decodeLine line = .error (.unreadable "stream did not contain valid UTF-8") := by
  rw [decodeLine, String.fromUTF8?, dif_neg]
  intro valid
  refine noText (String.fromUTF8 line.toByteArray valid) ?_
  change line.toByteArray.data.toList = line
  rw [List.data_toByteArray]

theorem newline_not_mem_encodeChar {letter : Char} (other : letter ≠ '\n') :
    newline ∉ String.utf8EncodeChar letter := by
  have code : letter.val.toNat ≠ 10 := fun same => other (Char.ext (UInt32.toNat_inj.mp same))
  fun_cases String.utf8EncodeChar letter <;> simp [newline, ← UInt8.toNat_inj] <;> omega

theorem newline_not_mem_encode {text : String} (oneLine : '\n' ∉ text.toList) :
    newline ∉ encode text := by
  rw [encode_eq_flatMap, List.mem_flatMap]
  rintro ⟨letter, inside, member⟩
  exact newline_not_mem_encodeChar (fun same => oneLine (same ▸ inside)) member

end Visa.Interview
