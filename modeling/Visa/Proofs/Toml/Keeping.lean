import Visa.Toml.Document

namespace Visa.Toml

/-! Texts stay where they are put: no line of a document takes a text away or changes it, whatever
the line is. -/

/-- The text at the end of a path of tables. -/
def Node.textAt? : List String → Node → Option String
  | [], .text value => some value
  | key :: path, .table form members => (Table.lookup ⟨form, members⟩ key).bind (textAt? path)
  | _, _ => none

/-- Every text of the one is found in the other at the same place. -/
def Node.Keeps (before after : Node) : Prop :=
  ∀ path text, before.textAt? path = some text → after.textAt? path = some text

theorem Node.Keeps.refl (node : Node) : node.Keeps node := fun _ _ found => found

theorem Node.Keeps.trans {first second third : Node} (early : first.Keeps second)
    (late : second.Keeps third) : first.Keeps third :=
  fun path text found => late path text (early path text found)

/-- There are no texts to keep in a list of tables. -/
theorem Node.keeps_tables (elements : List (List (String × Node))) (after : Node) :
    (Node.tables elements).Keeps after := by
  intro path text found
  cases path <;> cases found

namespace Table

variable {table : Table} {key : String} {node : Node}

def toNode (table : Table) : Node := .table table.form table.members

/-! ## One member -/

/-- A member that is set is found, and the others are found as before. -/
theorem lookup_set (table : Table) (key other : String) (node : Node) :
    (table.set key node).lookup other = if other = key then some node else table.lookup other := by
  unfold set lookup
  split
  next present =>
    -- A member that is replaced keeps its key, so the search ends at the same place.
    have kept : (fun member : String × Node => member.1 == other) ∘
        (fun member => if member.1 == key then (key, node) else member) =
        fun member => member.1 == other := by
      funext member
      by_cases same : member.1 = key <;> simp [same]
    rw [List.find?_map, kept]
    cases found : table.members.find? fun member => member.1 == other with
    | none =>
        have different : other ≠ key := by
          rintro rfl
          rw [List.any_eq_true] at present
          obtain ⟨member, inside, named⟩ := present
          exact List.find?_eq_none.mp found member inside named
        rw [if_neg different]
        rfl
    | some member =>
        have named := List.find?_some found
        rw [beq_iff_eq] at named
        by_cases same : other = key <;> simp [named, same]
  next absent =>
    rw [List.find?_append]
    by_cases same : other = key
    · have fresh : table.members.find? (fun member => member.1 == key) = none := by
        rwa [← Option.not_isSome_iff_eq_none, List.find?_isSome, ← List.any_eq_true]
      rw [same, fresh]
      simp
    · simp [same, Ne.symm same]

theorem keeps_set (kept : ∀ old, table.lookup key = some old → old.Keeps node) :
    table.toNode.Keeps (table.set key node).toNode := by
  intro path text found
  cases path with
  | nil => cases found
  | cons name path =>
      obtain ⟨old, here, inside⟩ := Option.bind_eq_some_iff.mp found
      have there := table.lookup_set key name node
      by_cases same : name = key
      · subst same
        rw [if_pos rfl] at there
        exact Option.bind_eq_some_iff.mpr ⟨node, there, kept old here path text inside⟩
      · rw [if_neg same, here] at there
        exact Option.bind_eq_some_iff.mpr ⟨old, there, inside⟩

theorem keeps_set_of_new (new : table.lookup key = none) :
    table.toNode.Keeps (table.set key node).toNode :=
  keeps_set fun old found => by cases new.symm.trans found

theorem keeps_set_of_lookup {old : Node} (here : table.lookup key = some old)
    (kept : old.Keeps node) : table.toNode.Keeps (table.set key node).toNode :=
  keeps_set fun other found => by
    cases here.symm.trans found
    exact kept

/-! ## One line -/

/-- A change of a table that takes no text away. -/
def IsKeeping (change : Table → Option Table) : Prop :=
  ∀ table after, change table = some after → table.toNode.Keeps after.toNode

theorem isKeeping_within {change : Table → Option Table} (keeping : IsKeeping change)
    (isDotted : Bool) (path : List String) : IsKeeping (within isDotted change path) := by
  -- A table that is changed further down is put back in the place of the table it was.
  induction path with
  | nil => exact keeping
  | cons key path ih =>
      intro table after found
      rw [within] at found
      split at found
      next new =>
        obtain ⟨inner, _, rfl⟩ := Option.map_eq_some_iff.mp found
        exact keeps_set_of_new new
      next form members here =>
        split at found
        · cases found
        · obtain ⟨inner, changed, rfl⟩ := Option.map_eq_some_iff.mp found
          exact keeps_set_of_lookup here (ih _ inner changed)
      next latest earlier here =>
        obtain ⟨inner, _, rfl⟩ := Option.map_eq_some_iff.mp found
        exact keeps_set_of_lookup here (Node.keeps_tables _ _)
      next => cases found

theorem isKeeping_put (path : List String) (key : String) (node : Node) :
    IsKeeping (put path key node) := by
  refine isKeeping_within (fun table after found => ?_) _ path
  split at found
  · unfold add at found
    split at found
    next new =>
      cases found
      exact keeps_set_of_new new
    next => cases found
  · cases found

theorem isKeeping_openTable (path : List String) (key : String) :
    IsKeeping (openTable path key) := by
  refine isKeeping_within (fun table after found => ?_) _ path
  split at found
  next new =>
    cases found
    exact keeps_set_of_new new
  next members here =>
    cases found
    exact keeps_set_of_lookup here fun path text found => by cases path <;> exact found
  next => cases found

theorem isKeeping_openElement (path : List String) (key : String) :
    IsKeeping (openElement path key) := by
  refine isKeeping_within (fun table after found => ?_) _ path
  split at found
  next new =>
    cases found
    exact keeps_set_of_new new
  next elements here =>
    cases found
    exact keeps_set_of_lookup here (Node.keeps_tables _ _)
  next => cases found

end Table

theorem keeps_line? {draft after : Draft} {text rest : List Char}
    (found : line? draft text = some (after, rest)) :
    draft.root.toNode.Keeps after.root.toNode := by
  unfold line? at found
  split at found
  · obtain ⟨⟨⟨path, key⟩, behind⟩, _, found⟩ := Option.bind_eq_some_iff.mp found
    obtain ⟨root, opened, found⟩ := Option.bind_eq_some_iff.mp found
    cases found
    exact Table.isKeeping_openElement path key _ root opened
  · obtain ⟨⟨⟨path, key⟩, behind⟩, _, found⟩ := Option.bind_eq_some_iff.mp found
    obtain ⟨root, opened, found⟩ := Option.bind_eq_some_iff.mp found
    cases found
    exact Table.isKeeping_openTable path key _ root opened
  · obtain ⟨⟨⟨path, key⟩, behind⟩, _, found⟩ := Option.bind_eq_some_iff.mp found
    obtain ⟨⟨node, behind⟩, _, found⟩ := Option.bind_eq_some_iff.mp found
    obtain ⟨behind, _, found⟩ := Option.bind_eq_some_iff.mp found
    obtain ⟨root, placed, found⟩ := Option.bind_eq_some_iff.mp found
    cases found
    exact Table.isKeeping_within (Table.isKeeping_put path key node) _ _ _ root placed

/-! ## Whole documents -/

theorem keeps_lines? {fuel : Nat} {draft : Draft} {text : List Char} {table : Table}
    (found : lines? fuel draft text = some table) : draft.root.toNode.Keeps table.toNode := by
  induction fuel generalizing draft text with
  | zero =>
      rw [lines?] at found
      split at found <;> cases found
      exact .refl _
  | succ fuel ih =>
      rw [lines?] at found
      split at found
      · cases found
        exact .refl _
      · obtain ⟨⟨next, rest⟩, line, behind⟩ := Option.bind_eq_some_iff.mp found
        exact (keeps_line? line).trans (ih behind)

end Visa.Toml
