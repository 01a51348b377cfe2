namespace Visa.Text

/-! First occurrences: where a key is found, and what stands on its two sides. -/

/-- The text before and after the first occurrence of a key. -/
def cutAt (key : List Char) : List Char → Option (List Char × List Char)
  | [] => if key.isEmpty then some ([], []) else none
  | letter :: rest =>
      if key.isPrefixOf (letter :: rest) then some ([], (letter :: rest).drop key.length)
      else (cutAt key rest).map fun (before, after) => (letter :: before, after)

/-- The text after the first occurrence of a key. -/
def after? (key text : List Char) : Option (List Char) := (cutAt key text).map Prod.snd

/-- The text before the first occurrence of a key that does occur. -/
def before? (key text : List Char) : Option (List Char) := (cutAt key text).map Prod.fst

theorem eq_append_of_cutAt {key text before after : List Char}
    (found : cutAt key text = some (before, after)) : text = before ++ key ++ after := by
  induction text generalizing before with
  | nil =>
      simp only [cutAt] at found
      split at found
      · simp_all
      · contradiction
  | cons letter rest ih =>
      simp only [cutAt] at found
      split at found <;> rename_i here
      · obtain ⟨more, same⟩ := List.isPrefixOf_iff_prefix.mp here
        simp only [Option.some.injEq, Prod.mk.injEq] at found
        rw [← found.1, ← found.2, ← same, List.drop_left]
        simp
      · obtain ⟨⟨start, stop⟩, later, same⟩ := Option.map_eq_some_iff.mp found
        simp only [Prod.mk.injEq] at same
        obtain ⟨rfl, rfl⟩ := same
        rw [ih later]
        simp

theorem cutAt_eq_none_iff {key text : List Char} : cutAt key text = none ↔ ¬key <:+: text := by
  induction text with
  | nil =>
      simp only [cutAt, List.isEmpty_iff, List.infix_nil]
      split <;> simp_all
  | cons letter rest ih =>
      simp only [cutAt, List.infix_cons_iff, ← List.isPrefixOf_iff_prefix]
      split <;> rename_i here
      · simp [here]
      · simp [here, ih]

end Visa.Text
