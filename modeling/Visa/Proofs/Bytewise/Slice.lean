import Visa.Proofs.Lines
import Visa.Text.Bytes
import Visa.Text.Search

namespace Visa.Bytewise

/-! A text as the bytes of its encoding, and the parts of it that two positions cut out. A position
counts bytes; it may lie behind the end, or between two bytes of one character. -/

/-- What puts an end to the reading of bytes. -/
inductive Trap where
  | badSlice
  | belowZero
  | noText
deriving DecidableEq, Repr

def encode (text : List Char) : List UInt8 := text.flatMap String.utf8EncodeChar

theorem encode_toList (text : String) : encode text.toList = Interview.encode text :=
  (Interview.encode_eq_flatMap text).symm

def decode (bytes : List UInt8) : Except Trap (List Char) :=
  match String.fromUTF8? bytes.toByteArray with
  | some text => .ok text.toList
  | none => .error .noText

/-- The bytes of what an operation on text makes of the text that the bytes stand for. -/
def onText (change : List Char → List Char) (bytes : List UInt8) : Except Trap (List UInt8) :=
  (decode bytes).map fun text => encode (change text)

/-- All bytes of a character but the first are of this form, and no others are. -/
def isTail (byte : UInt8) : Bool := 0x80 ≤ byte && byte < 0xC0

def isBoundary (bytes : List UInt8) (index : Nat) : Bool :=
  match bytes[index]? with
  | some byte => !isTail byte
  | none => index == bytes.length

def slice (bytes : List UInt8) (start stop : Nat) : Except Trap (List UInt8) :=
  if start ≤ stop && isBoundary bytes start && isBoundary bytes stop then
    .ok ((bytes.take stop).drop start)
  else .error .badSlice

def sliceFrom (bytes : List UInt8) (start : Nat) : Except Trap (List UInt8) :=
  slice bytes start bytes.length

def sliceTo (bytes : List UInt8) (stop : Nat) : Except Trap (List UInt8) := slice bytes 0 stop

def decrement : Nat → Except Trap Nat
  | 0 => .error .belowZero
  | count + 1 => .ok count

/-- The position of the first occurrence of a key. -/
def find (key : List UInt8) : List UInt8 → Option Nat
  | [] => if key.isEmpty then some 0 else none
  | byte :: rest =>
      if key.isPrefixOf (byte :: rest) then some 0 else (find key rest).map (· + 1)

variable {text key : List Char}

@[simp] theorem ok_bind {α β : Type} (value : α) (next : α → Except Trap β) :
    (.ok value >>= next) = next value := rfl

/-! ## Encoded texts -/

@[simp] theorem encode_nil : encode [] = [] := rfl

@[simp] theorem encode_cons (letter : Char) (rest : List Char) :
    encode (letter :: rest) = String.utf8EncodeChar letter ++ encode rest := rfl

@[simp] theorem encode_append (first second : List Char) :
    encode (first ++ second) = encode first ++ encode second := List.flatMap_append

@[simp] theorem length_encode (text : List Char) : (encode text).length = Text.byteSize text := by
  induction text with
  | nil => rfl
  | cons letter rest ih =>
      rw [encode_cons, List.length_append, String.length_utf8EncodeChar, ih, Text.byteSize]

theorem byteSize_concat {mark : Char} (single : mark.utf8Size = 1) (front : List Char) :
    Text.byteSize (front ++ [mark]) = Text.byteSize front + 1 := by
  rw [Text.byteSize_append, Text.byteSize, single, Text.byteSize]

@[simp] theorem decode_encode (text : List Char) : decode (encode text) = .ok text := by
  have bytes := Interview.encode_eq_flatMap (String.ofList text)
  rw [String.toList_ofList] at bytes
  rw [decode, encode, ← bytes, Interview.fromUTF8?_encode]
  simp only [String.toList_ofList]

@[simp] theorem onText_encode (change : List Char → List Char) (text : List Char) :
    onText change (encode text) = .ok (encode (change text)) := by
  rw [onText, decode_encode]
  rfl

theorem encode_eq_nil_iff : encode text = [] ↔ text = [] := by
  rw [← List.length_eq_zero_iff, length_encode]
  cases text with
  | nil => simp [Text.byteSize]
  | cons letter rest => simp [Text.byteSize, letter.utf8Size_pos.ne']

theorem isEmpty_encode (text : List Char) : (encode text).isEmpty = text.isEmpty := by
  rw [Bool.eq_iff_iff, List.isEmpty_iff, List.isEmpty_iff, encode_eq_nil_iff]

/-- The first byte of a character tells where it starts. -/
theorem exists_encodeChar (letter : Char) :
    ∃ lead tail, String.utf8EncodeChar letter = lead :: tail ∧
      tail.length + 1 = letter.utf8Size ∧ isTail lead = false ∧ ∀ byte ∈ tail, isTail byte := by
  rw [← String.length_utf8EncodeChar]
  fun_cases String.utf8EncodeChar letter <;>
    refine ⟨_, _, rfl, rfl, ?_, ?_⟩ <;>
    simp [isTail, UInt8.le_iff_toNat_le, UInt8.lt_iff_toNat_lt] <;> omega

/-! ## Slices -/

theorem isBoundary_append (first second : List UInt8) (index : Nat) :
    isBoundary (first ++ second) (first.length + index) = isBoundary second index := by
  rw [isBoundary, List.getElem?_append_right (Nat.le_add_right _ _), Nat.add_sub_cancel_left,
    isBoundary]
  split
  · rfl
  · rw [List.length_append, Bool.eq_iff_iff, beq_iff_eq, beq_iff_eq, Nat.add_right_inj]

/-- The boundaries are the positions between characters, and no others. -/
theorem isBoundary_encode_iff {index : Nat} : isBoundary (encode text) index ↔
    ∃ before after, text = before ++ after ∧ Text.byteSize before = index := by
  constructor
  · intro boundary
    induction text generalizing index with
    | nil =>
        simp only [isBoundary, encode_nil, List.getElem?_nil, List.length_nil,
          beq_iff_eq] at boundary
        exact ⟨[], [], rfl, boundary.symm⟩
    | cons letter rest ih =>
        obtain ⟨lead, tail, shape, size, -, inside⟩ := exists_encodeChar letter
        rcases Nat.lt_or_ge index letter.utf8Size with within | beyond
        · cases index with
          | zero => exact ⟨[], letter :: rest, rfl, rfl⟩
          | succ index =>
              have short : index < tail.length := by omega
              have byte : (encode (letter :: rest))[index + 1]? = some tail[index] := by
                rw [encode_cons, shape, List.cons_append, List.getElem?_cons_succ,
                  List.getElem?_append_left short, List.getElem?_eq_getElem short]
              rw [isBoundary, byte] at boundary
              simp [inside _ (List.getElem_mem short)] at boundary
        · obtain ⟨count, rfl⟩ := Nat.exists_eq_add_of_le beyond
          rw [encode_cons, ← String.length_utf8EncodeChar, isBoundary_append] at boundary
          obtain ⟨before, after, rfl, rfl⟩ := ih boundary
          exact ⟨letter :: before, after, rfl, rfl⟩
  · rintro ⟨before, after, rfl, rfl⟩
    have here := isBoundary_append (encode before) (encode after) 0
    rw [length_encode, Nat.add_zero] at here
    rw [encode_append, here]
    cases after with
    | nil => rfl
    | cons letter rest =>
        obtain ⟨lead, tail, shape, -, first, -⟩ := exists_encodeChar letter
        simp [isBoundary, shape, first]

theorem slice_encode (before inside after : List Char) :
    slice (encode (before ++ inside ++ after)) (Text.byteSize before)
      (Text.byteSize before + Text.byteSize inside) = .ok (encode inside) := by
  have start : isBoundary (encode (before ++ inside ++ after)) (Text.byteSize before) :=
    isBoundary_encode_iff.mpr ⟨before, inside ++ after, List.append_assoc _ _ _, rfl⟩
  have stop : isBoundary (encode (before ++ inside ++ after))
      (Text.byteSize before + Text.byteSize inside) :=
    isBoundary_encode_iff.mpr ⟨before ++ inside, after, rfl, Text.byteSize_append _ _⟩
  rw [slice, start, stop, decide_eq_true (Nat.le_add_right _ _), Bool.and_self, Bool.and_self,
    if_pos rfl, encode_append, List.take_left' (by rw [length_encode, Text.byteSize_append]),
    encode_append, List.drop_left' (length_encode before)]

@[simp] theorem sliceFrom_encode (before after : List Char) :
    sliceFrom (encode (before ++ after)) (Text.byteSize before) = .ok (encode after) := by
  have cut := slice_encode before after []
  rwa [List.append_nil, ← Text.byteSize_append, ← length_encode (before ++ after)] at cut

@[simp] theorem sliceTo_encode (before after : List Char) :
    sliceTo (encode (before ++ after)) (Text.byteSize before) = .ok (encode before) := by
  have cut := slice_encode [] before after
  rwa [List.nil_append, Text.byteSize, Nat.zero_add] at cut

/-- A mark of one byte is passed by one. -/
theorem sliceFrom_behind {mark : Char} (single : mark.utf8Size = 1) (front behind : List Char) :
    sliceFrom (encode (front ++ [mark] ++ behind)) (Text.byteSize front + 1) =
      .ok (encode behind) := by
  rw [← byteSize_concat single, sliceFrom_encode]

theorem slice_behind {mark : Char} (single : mark.utf8Size = 1) (front inside after : List Char) :
    slice (encode (front ++ [mark] ++ (inside ++ after))) (Text.byteSize front + 1)
      (Text.byteSize front + 1 + Text.byteSize inside) = .ok (encode inside) := by
  rw [← byteSize_concat single, ← List.append_assoc, slice_encode]

/-- A position between the two bytes of one character cuts nothing out. -/
example : sliceFrom (encode "é:".toList) 1 = .error .badSlice := by decide

/-! ## Searching -/

theorem encode_injective {first second : List Char} (same : encode first = encode second) :
    first = second := by
  have decoded := decode_encode first
  rw [same, decode_encode] at decoded
  exact (Except.ok.inj decoded).symm

/-- The code of a character is no prefix of that of another. -/
theorem encode_prefix_iff : encode key <+: encode text ↔ key <+: text := by
  constructor
  · rintro ⟨more, whole⟩
    induction key generalizing text with
    | nil => exact List.nil_prefix
    | cons letter key ih =>
        cases text with
        | nil => cases encode_eq_nil_iff.mp (List.append_eq_nil_iff.mp whole).1
        | cons other text =>
            rw [encode_cons, encode_cons, List.append_assoc] at whole
            have same : letter = other := by
              have heads := congrArg (fun bytes => bytes.toByteArray.utf8DecodeChar? 0) whole
              simp only [List.toByteArray_append, ByteArray.utf8DecodeChar?_utf8EncodeChar_append,
                Option.some.injEq] at heads
              exact heads
            rw [same] at whole ⊢
            exact List.cons_prefix_cons.mpr ⟨rfl, ih (List.append_cancel_left whole)⟩
  · rintro ⟨more, rfl⟩
    rw [encode_append]
    exact List.prefix_append _ _

theorem encode_suffix_iff (nonempty : key ≠ []) :
    encode key <:+ encode text ↔ key <:+ text := by
  obtain ⟨first, more, rfl⟩ := List.exists_cons_of_ne_nil nonempty
  constructor
  · rintro ⟨front, whole⟩
    -- The key starts with the first byte of a character, so the text can be parted there.
    have boundary : isBoundary (encode text) front.length := by
      have here := isBoundary_append front (encode (first :: more)) 0
      rw [Nat.add_zero, whole] at here
      rw [here]
      exact isBoundary_encode_iff.mpr ⟨[], first :: more, rfl, rfl⟩
    obtain ⟨before, after, rfl, size⟩ := isBoundary_encode_iff.mp boundary
    rw [encode_append] at whole
    obtain ⟨-, same⟩ := List.append_inj whole (by rw [length_encode, size])
    exact ⟨before, by rw [encode_injective same]⟩
  · rintro ⟨front, rfl⟩
    rw [encode_append]
    exact List.suffix_append _ _

/-- A search passes what is behind the first byte of a character: no character starts there. -/
theorem find_tail {tail rest : List UInt8} (nonempty : key ≠ [])
    (inside : ∀ byte ∈ tail, isTail byte) :
    find (encode key) (tail ++ rest) = (find (encode key) rest).map (· + tail.length) := by
  obtain ⟨first, more, rfl⟩ := List.exists_cons_of_ne_nil nonempty
  obtain ⟨lead, others, shape, -, notTail, -⟩ := exists_encodeChar first
  induction tail with
  | nil => simp
  | cons byte tail ih =>
      obtain ⟨here, later⟩ := List.forall_mem_cons.mp inside
      have different : lead ≠ byte := by
        rintro rfl
        exact absurd here (by simp [notTail])
      rw [List.cons_append, find, encode_cons, shape, List.cons_append, List.isPrefixOf_cons_cons,
        beq_eq_false_iff_ne.mpr different, Bool.false_and, if_neg Bool.false_ne_true,
        ← List.cons_append, ← shape, ← encode_cons, ih later, Option.map_map]
      rfl

theorem find_encode (nonempty : key ≠ []) (text : List Char) :
    find (encode key) (encode text) =
      (Text.cutAt key text).map fun sides => Text.byteSize sides.1 := by
  induction text with
  | nil => simp [find, Text.cutAt, isEmpty_encode, nonempty]
  | cons letter rest ih =>
      obtain ⟨lead, tail, shape, size, -, inside⟩ := exists_encodeChar letter
      have whole : encode (letter :: rest) = lead :: (tail ++ encode rest) := by
        rw [encode_cons, shape, List.cons_append]
      have here : (encode key).isPrefixOf (encode (letter :: rest)) =
          key.isPrefixOf (letter :: rest) := by
        rw [Bool.eq_iff_iff, List.isPrefixOf_iff_prefix, List.isPrefixOf_iff_prefix,
          encode_prefix_iff]
      rw [whole] at here ⊢
      rw [find, here, Text.cutAt]
      split
      · rfl
      · rw [find_tail nonempty inside, ih]
        simp only [Option.map_map]
        congr 1
        funext sides
        simp only [Function.comp_apply, Text.byteSize, ← size]
        omega

/-- A search in bytes finds what a search in the text does. -/
theorem find_cases (nonempty : key ≠ []) (text : List Char) :
    (find (encode key) (encode text) = none ∧ Text.before? key text = none ∧
        Text.after? key text = none) ∨
      ∃ before after, text = before ++ key ++ after ∧
        find (encode key) (encode text) = some (Text.byteSize before) ∧
        Text.before? key text = some before ∧ Text.after? key text = some after := by
  rw [find_encode nonempty, Text.before?, Text.after?]
  cases found : Text.cutAt key text with
  | none => exact .inl ⟨rfl, rfl, rfl⟩
  | some sides => exact .inr ⟨sides.1, sides.2, Text.eq_append_of_cutAt found, rfl, rfl, rfl⟩

end Visa.Bytewise
