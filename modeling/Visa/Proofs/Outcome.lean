import Mathlib.Data.List.Forall2

namespace Visa.Outcome

/-! Computations that end with a value, taken apart into steps that end with one. -/

variable {ε α β : Type} {first : Except ε α} {result : β}

theorem bind_eq_ok_iff {next : α → Except ε β} :
    first >>= next = .ok result ↔ ∃ value, first = .ok value ∧ next value = .ok result := by
  cases first with
  | error reason => simp [bind, Except.bind]
  | ok value => simp [bind, Except.bind]

theorem map_eq_ok_iff {change : α → β} :
    first.map change = .ok result ↔ ∃ value, first = .ok value ∧ change value = result := by
  cases first with
  | error reason => simp [Except.map]
  | ok value => simp [Except.map]

theorem mapM_eq_ok_iff {items : List α} {values : List β} {read : α → Except ε β} :
    items.mapM read = .ok values ↔
      List.Forall₂ (fun item value => read item = .ok value) items values := by
  induction items generalizing values with
  | nil =>
      rw [List.mapM_nil, List.forall₂_nil_left_iff]
      constructor
      · intro found
        cases found
        rfl
      · rintro rfl
        rfl
  | cons item rest ih =>
      rw [List.mapM_cons, bind_eq_ok_iff, List.forall₂_cons_left_iff]
      constructor
      · rintro ⟨value, found, more⟩
        obtain ⟨later, foundLater, same⟩ := bind_eq_ok_iff.mp more
        cases same
        exact ⟨value, later, found, ih.mp foundLater, rfl⟩
      · rintro ⟨value, later, found, foundLater, rfl⟩
        exact ⟨value, found, bind_eq_ok_iff.mpr ⟨later, ih.mpr foundLater, rfl⟩⟩

theorem exists_of_forall₂ {items : List α} {values : List β} {read : α → Except ε β}
    (each : List.Forall₂ (fun item value => read item = .ok value) items values) :
    ∀ item ∈ items, ∃ value, read item = .ok value := by
  induction each with
  | nil => nofun
  | cons found _ ih => exact List.forall_mem_cons.mpr ⟨⟨_, found⟩, ih⟩

theorem forall₂_of_common {γ : Type} {items : List α} {firsts : List β} {seconds : List γ}
    {left : α → β → Prop} {right : α → γ → Prop} {related : β → γ → Prop}
    (toFirsts : List.Forall₂ left items firsts) (toSeconds : List.Forall₂ right items seconds)
    (each : ∀ item ∈ items, ∀ first second, left item first → right item second →
      related first second) : List.Forall₂ related firsts seconds := by
  induction toFirsts generalizing seconds with
  | nil =>
      cases toSeconds
      exact .nil
  | cons first _ ih =>
      cases toSeconds with
      | cons second rest =>
          obtain ⟨here, later⟩ := List.forall_mem_cons.mp each
          exact .cons (here _ _ first second) (ih rest later)

/-! ## Faults of one kind -/

/-- Whatever keeps the computation from giving a value is of this kind. -/
def FailsWith (kind : ε → Prop) (outcome : Except ε α) : Prop :=
  ∀ reason, outcome = .error reason → kind reason

variable {kind wider : ε → Prop}

theorem FailsWith.mono {outcome : Except ε α} (fails : FailsWith kind outcome)
    (within : ∀ reason, kind reason → wider reason) : FailsWith wider outcome :=
  fun reason failed => within reason (fails reason failed)

theorem FailsWith.bind {first : Except ε α} {next : α → Except ε β} (start : FailsWith kind first)
    (later : ∀ value, FailsWith kind (next value)) : FailsWith kind (first >>= next) := by
  intro reason failed
  cases first with
  | error cause =>
      cases failed
      exact start reason rfl
  | ok value => exact later value reason failed

theorem FailsWith.mapM {items : List α} {read : α → Except ε β}
    (each : ∀ item, FailsWith kind (read item)) : FailsWith kind (items.mapM read) := by
  induction items with
  | nil => nofun
  | cons item rest ih =>
      rw [List.mapM_cons]
      exact (each item).bind fun value => ih.bind fun values => nofun

/-! ## Computations with several checks -/

variable {fault : Option ε} {faults : List (Option ε)} {outcome : Except ε α}

/-- The first fault that is found ends the computation; without any it gives a value. -/
def EndsAtFirst (faults : List (Option ε)) (outcome : Except ε α) : Prop :=
  match faults.findSome? id with
  | some fault => outcome = .error fault
  | none => ∃ value, outcome = .ok value

theorem endsAtFirst_of_ok {value : α} (ended : outcome = .ok value) : EndsAtFirst [] outcome :=
  ⟨value, ended⟩

theorem EndsAtFirst.append {earlier : List (Option ε)} {next : α → Except ε β}
    (first : EndsAtFirst earlier outcome)
    (later : ∀ value, outcome = .ok value → EndsAtFirst faults (next value)) :
    EndsAtFirst (earlier ++ faults) (outcome >>= next) := by
  unfold EndsAtFirst at *
  rw [List.findSome?_append]
  cases found : earlier.findSome? id with
  | some fault =>
      rw [found] at first
      cases first
      rfl
  | none =>
      rw [found] at first
      obtain ⟨value, rfl⟩ := first
      exact later value rfl

theorem EndsAtFirst.bind {next : α → Except ε β} (first : EndsAtFirst [fault] outcome)
    (later : ∀ value, EndsAtFirst faults (next value)) :
    EndsAtFirst (fault :: faults) (outcome >>= next) := first.append fun value _ => later value

theorem EndsAtFirst.mapM {check : α → Option ε} {read : α → Except ε β}
    (each : ∀ item, EndsAtFirst [check item] (read item)) (items : List α) :
    EndsAtFirst [items.findSome? check] (items.mapM read) := by
  induction items with
  | nil => exact ⟨[], rfl⟩
  | cons item rest ih =>
      have collected : EndsAtFirst [check item, rest.findSome? check] ((item :: rest).mapM read) := by
        rw [List.mapM_cons]
        exact (each item).bind fun value => ih.bind fun values => endsAtFirst_of_ok rfl
      rw [List.findSome?_cons]
      generalize check item = found at collected ⊢
      cases found with
      | some fault => exact collected
      | none => exact collected

theorem EndsAtFirst.error_iff {reason : ε} (ends : EndsAtFirst faults outcome) :
    outcome = .error reason ↔ faults.findSome? id = some reason := by
  unfold EndsAtFirst at ends
  cases first : faults.findSome? id with
  | some fault =>
      rw [first] at ends
      simp [ends]
  | none =>
      rw [first] at ends
      obtain ⟨value, rfl⟩ := ends
      simp

theorem EndsAtFirst.exists_ok_iff (ends : EndsAtFirst faults outcome) :
    (∃ value, outcome = .ok value) ↔ faults.findSome? id = none := by
  unfold EndsAtFirst at ends
  cases first : faults.findSome? id with
  | some fault =>
      rw [first] at ends
      simp [ends]
  | none =>
      rw [first] at ends
      simp [ends]

end Visa.Outcome
