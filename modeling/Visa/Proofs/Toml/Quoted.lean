import Visa.Toml.Quoted

namespace Visa.Toml

/-! What a quoted string costs: each character that it stands for takes at least one character of
the text, and exactly one only where it is written as itself. -/

variable {letter : Char} {text raw letters rest : List Char} {read : Quoted} {size : Nat}

theorem Quoted.exists_of_cons (found : read.cons letter = some (letters, rest)) :
    ∃ more, read = some (more, rest) ∧ letters = letter :: more := by
  obtain ⟨⟨more, behind⟩, same, pair⟩ := Option.map_eq_some_iff.mp found
  cases pair
  exact ⟨more, same, rfl⟩

/-! ## One line -/

/-- A character that stands for itself in a string on one line. -/
structure IsVerbatim (letter : Char) : Prop where
  plain : isPlain letter
  unquoted : letter ≠ '"'
  unescaped : letter ≠ '\\'

instance (letter : Char) : Decidable (IsVerbatim letter) :=
  decidable_of_iff (isPlain letter ∧ letter ≠ '"' ∧ letter ≠ '\\')
    ⟨fun ⟨plain, unquoted, unescaped⟩ => ⟨plain, unquoted, unescaped⟩,
      fun verbatim => ⟨verbatim.plain, verbatim.unquoted, verbatim.unescaped⟩⟩

/-- What is between the quotes stands for itself, or for fewer characters. -/
def Cost (raw letters : List Char) : Prop :=
  (letters = raw ∧ ∀ letter ∈ raw, IsVerbatim letter) ∨ letters.length < raw.length

theorem Cost.length_le (cost : Cost raw letters) : letters.length ≤ raw.length := by
  rcases cost with ⟨rfl, _⟩ | shorter
  · exact Nat.le_refl _
  · exact Nat.le_of_lt shorter

theorem Cost.cons (cost : Cost raw letters) (verbatim : IsVerbatim letter) :
    Cost (letter :: raw) (letter :: letters) := by
  rcases cost with ⟨rfl, each⟩ | shorter
  · exact .inl ⟨rfl, List.forall_mem_cons.mpr ⟨verbatim, each⟩⟩
  · exact .inr (Nat.succ_lt_succ shorter)

/-- The string that is read ends at a quote, and each of its characters has its cost. -/
def Costs (read : Quoted) (text : List Char) : Prop :=
  ∀ letters rest, read = some (letters, rest) →
    ∃ raw, text = raw ++ '"' :: rest ∧ Cost raw letters

namespace Costs

theorem none : Costs none text := nofun

theorem cons (costs : Costs read text) (verbatim : IsVerbatim letter) :
    Costs (read.cons letter) (letter :: text) := by
  intro letters rest found
  obtain ⟨more, same, rfl⟩ := Quoted.exists_of_cons found
  obtain ⟨raw, rfl, cost⟩ := costs more rest same
  exact ⟨letter :: raw, rfl, cost.cons verbatim⟩

theorem escaped (costs : Costs read text) (front : List Char) (several : 1 < front.length) :
    Costs (read.cons letter) (front ++ text) := by
  intro letters rest found
  obtain ⟨more, same, rfl⟩ := Quoted.exists_of_cons found
  obtain ⟨raw, rfl, cost⟩ := costs more rest same
  refine ⟨front ++ raw, (List.append_assoc ..).symm, .inr ?_⟩
  have atMost := cost.length_le
  rw [List.length_cons, List.length_append]
  omega

theorem bind {code? : Option Char} {next : Char → Quoted}
    (each : ∀ letter, Costs (next letter) text) :
    Costs (code? >>= next) text := by
  cases code? with
  | none => exact none
  | some letter => exact each letter

end Costs

theorem costs_basic (text : List Char) : Costs (basic text) text := by
  fun_induction basic text with
  | case1 => exact .none
  | case2 rest =>
      intro letters behind found
      cases found
      exact ⟨[], rfl, .inl ⟨rfl, List.forall_mem_nil _⟩⟩
  | case3 a b rest ih =>
      exact .bind fun letter => ih.escaped ['\\', 'x', a, b] (Nat.le_add_left 2 2)
  | case4 a b c d rest ih =>
      exact .bind fun letter => ih.escaped ['\\', 'u', a, b, c, d] (Nat.le_add_left 2 4)
  | case5 a b c d e f g h rest ih =>
      exact .bind fun letter => ih.escaped ['\\', 'U', a, b, c, d, e, f, g, h] (Nat.le_add_left 2 8)
  | case6 letter rest _ _ _ ih =>
      exact .bind fun meant => ih.escaped ['\\', letter] (Nat.le_refl 2)
  | case7 letter rest unquoted _ _ _ unescaped plain ih =>
      cases rest with
      | nil => exact .none
      | cons next rest => exact ih.cons ⟨plain, unquoted, fun same => unescaped next rest same rfl⟩
  | case8 => exact .none

theorem basic_append (verbatim : ∀ letter ∈ raw, IsVerbatim letter) (rest : List Char) :
    basic (raw ++ '"' :: rest) = some (raw, rest) := by
  induction raw with
  | nil => rfl
  | cons letter raw ih =>
      obtain ⟨first, later⟩ := List.forall_mem_cons.mp verbatim
      rw [List.cons_append, basic, if_pos first.plain, ih later]
      · rfl
      · exact first.unquoted
      all_goals
        intros
        exact first.unescaped ‹_›

/-! ## Several lines -/

/-- The string that is read leaves room for its three closing quotes and for what follows them. -/
def Fits (read : Quoted) (size : Nat) : Prop :=
  ∀ letters rest, read = some (letters, rest) → letters.length + 3 + rest.length ≤ size

namespace Fits

theorem none : Fits none size := nofun

theorem mono {more : Nat} (fits : Fits read size) (within : size ≤ more) : Fits read more :=
  fun letters rest found => Nat.le_trans (fits letters rest found) within

theorem cons (fits : Fits read size) : Fits (read.cons letter) (size + 1) := by
  intro letters rest found
  obtain ⟨more, same, rfl⟩ := Quoted.exists_of_cons found
  have bound := fits more rest same
  rw [List.length_cons]
  omega

theorem bind {code? : Option Char} {next : Char → Quoted}
    (each : ∀ letter, Fits (next letter) size) :
    Fits (code? >>= next) size := by
  cases code? with
  | none => exact none
  | some letter => exact each letter

end Fits

theorem fits_basicLines (fold : Fold) (text : List Char) :
    Fits (basicLines fold text) text.length := by
  fun_induction basicLines fold text with
  | case1 | case5 | case23 => exact .none
  | case6 | case7 | case8 =>
      intro letters behind found
      cases found
      simp only [List.length_cons, List.length_nil]
      omega
  -- Breaks and blanks that say nothing.
  | case2 rest ih | case16 rest ih | case18 rest ih | case19 rest ih =>
      exact ih.mono (Nat.le_add_right _ 1)
  | case4 letter rest _ _ _ ih => exact ih.mono (Nat.le_add_right _ 1)
  | case3 rest ih | case17 rest ih => exact ih.mono (Nat.le_add_right _ 2)
  | case12 _ rest _ ih => exact ih.mono (Nat.le_add_right _ 2)
  | case13 _ rest _ ih => exact ih.mono (Nat.le_add_right _ 3)
  | case14 _ letter rest _ _ _ _ _ _ _ ih => exact ih.mono (Nat.le_add_right _ 2)
  -- Escapes.
  | case9 _ a b rest _ ih => exact .bind fun meant => ih.cons.mono (Nat.le_add_right _ 3)
  | case10 _ a b c d rest _ ih => exact .bind fun meant => ih.cons.mono (Nat.le_add_right _ 5)
  | case11 _ a b c d e f g h rest _ ih =>
      exact .bind fun meant => ih.cons.mono (Nat.le_add_right _ 9)
  | case15 _ letter rest _ _ _ _ _ _ _ ih =>
      exact .bind fun meant => ih.cons.mono (Nat.le_add_right _ 1)
  -- Characters that stand for themselves.
  | case20 _ rest _ _ ih => exact ih.cons
  | case21 _ rest _ _ ih => exact ih.cons.cons
  | case22 =>
      rename_i ih
      exact ih.cons

theorem length_dropNewline_le (text : List Char) : (dropNewline text).length ≤ text.length := by
  unfold dropNewline newline?
  split
  · exact Nat.le_add_right _ 1
  · exact Nat.le_add_right _ 2
  · exact Nat.le_refl _

/-! ## A line that ends with a string -/

theorem string?_quote (single : ∀ rest, text ≠ '"' :: '"' :: rest) :
    string? ('"' :: text) = basic text := by
  unfold string?
  split <;> simp_all

/-- The quote that closes the string is the one behind the text or one in it. -/
theorem Cost.of_closed {value : List Char} (same : value ++ ['"', '\n'] = raw ++ '"' :: rest)
    (cost : Cost raw letters) : Cost value letters := by
  have lengths := congrArg List.length same
  simp only [List.length_append, List.length_cons, List.length_nil] at lengths
  cases rest with
  | nil =>
      have last := congrArg List.getLast? same
      simp at last
  | cons next rest =>
      rw [List.length_cons] at lengths
      rcases Nat.lt_or_ge raw.length value.length with shorter | longer
      · exact .inr (Nat.lt_of_le_of_lt cost.length_le shorter)
      · obtain ⟨rfl, _⟩ := List.append_inj same (by omega)
        exact cost

theorem cost_of_string? {value : List Char}
    (found : string? ('"' :: value ++ ['"', '\n']) = some (letters, rest)) :
    Cost value letters := by
  rw [List.cons_append] at found
  by_cases triple : ∃ rest, value ++ ['"', '\n'] = '"' :: '"' :: rest
  · obtain ⟨inner, opening⟩ := triple
    rw [opening] at found
    have lengths := congrArg List.length opening
    have bound := fits_basicLines _ _ _ _ found
    have dropped := length_dropNewline_le inner
    simp only [List.length_append, List.length_cons, List.length_nil] at lengths
    exact .inr (by omega)
  · rw [string?_quote (not_exists.mp triple)] at found
    obtain ⟨raw, same, cost⟩ := costs_basic _ _ _ found
    exact cost.of_closed same

theorem string?_of_verbatim (verbatim : ∀ letter ∈ raw, IsVerbatim letter) :
    string? ('"' :: raw ++ ['"', '\n']) = some (raw, ['\n']) := by
  rw [List.cons_append, string?_quote, basic_append verbatim]
  rintro rest same
  cases raw with
  | nil => cases same
  | cons letter raw => exact (List.forall_mem_cons.mp verbatim).1.unquoted (List.cons.inj same).1

end Visa.Toml
