namespace Visa.Text

/-! Positions in a text, counted in the bytes of its encoding. Only a position between two
characters, or at an end, cuts the text. -/

def byteSize : List Char → Nat
  | [] => 0
  | letter :: rest => letter.utf8Size + byteSize rest

theorem byteSize_append (first second : List Char) :
    byteSize (first ++ second) = byteSize first + byteSize second := by
  induction first with
  | nil => simp [byteSize]
  | cons letter rest ih => simp only [List.cons_append, byteSize, ih, Nat.add_assoc]

/-- The text in front of a position and the text behind it. -/
def splitAt? : Nat → List Char → Option (List Char × List Char)
  | 0, text => some ([], text)
  | _ + 1, [] => none
  | count + 1, letter :: rest =>
      if letter.utf8Size ≤ count + 1 then
        (splitAt? (count + 1 - letter.utf8Size) rest).map fun (front, behind) =>
          (letter :: front, behind)
      else none

def sliceFrom? (start : Nat) (text : List Char) : Option (List Char) :=
  (splitAt? start text).map Prod.snd

/-- The text between two positions. -/
def slice? (start stop : Nat) (text : List Char) : Option (List Char) := do
  let behind ← sliceFrom? start text
  let (inside, _) ← splitAt? (stop - start) behind
  return inside

theorem splitAt?_append (front behind : List Char) :
    splitAt? (byteSize front) (front ++ behind) = some (front, behind) := by
  induction front with
  | nil => rw [byteSize, List.nil_append, splitAt?]
  | cons letter rest ih =>
      obtain ⟨size, found⟩ := Nat.exists_eq_succ_of_ne_zero (Nat.ne_of_gt letter.utf8Size_pos)
      have left : size + byteSize rest + 1 - letter.utf8Size = byteSize rest := by omega
      rw [byteSize, List.cons_append, found, Nat.succ_add, splitAt?, if_pos (by omega), left, ih]
      rfl

theorem sliceFrom?_append (front behind : List Char) :
    sliceFrom? (byteSize front) (front ++ behind) = some behind := by
  rw [sliceFrom?, splitAt?_append]
  rfl

theorem slice?_append (before inside after : List Char) :
    slice? (byteSize before) (byteSize before + byteSize inside) (before ++ (inside ++ after)) =
      some inside := by
  rw [slice?, sliceFrom?_append, Nat.add_sub_cancel_left]
  dsimp only [bind, Option.bind]
  rw [splitAt?_append]
  rfl

end Visa.Text
