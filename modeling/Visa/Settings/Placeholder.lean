namespace Visa.Settings

/-! Placeholders in settings texts. A placeholder is a dollar sign and a non-empty name in braces;
the text is gone over once, from left to right, and a value that has been filled in is not looked
at again. -/

abbrev Environment := String → Option String

/-- The environment in which some variables are assigned. A name is compared with the whole
assignment up to an equals sign, so a name that holds one reaches into the value. -/
def Environment.ofList (assigned : List (String × String)) : Environment := fun name =>
  assigned.findSome? fun (assignee, value) =>
    ((name.toList ++ ['=']).isPrefixOf? (assignee.toList ++ '=' :: value.toList)).map
      String.ofList

/-- Where a scan stands: in plain text, behind a dollar sign, or in the braces after one, with the
name so far, latest character first. -/
inductive Place where
  | plain
  | dollar
  | name (letters : List Char)
deriving DecidableEq, Repr

def written (name : List Char) : List Char := ['$', '{'] ++ name ++ ['}']

/-- What stands in the place of a placeholder; without a value it stays as it is written. -/
def filled (environment : Environment) (name : List Char) : List Char :=
  if name.isEmpty then written name
  else
    match environment (String.ofList name) with
    | some value => value.toList
    | none => written name

def fill (environment : Environment) : Place → List Char → List Char
  | .plain, [] => []
  | .plain, letter :: rest =>
      if letter = '$' then fill environment .dollar rest
      else letter :: fill environment .plain rest
  | .dollar, [] => ['$']
  | .dollar, letter :: rest =>
      if letter = '{' then fill environment (.name []) rest
      else if letter = '$' then '$' :: fill environment .dollar rest
      else '$' :: letter :: fill environment .plain rest
  | .name letters, [] => ['$', '{'] ++ letters.reverse
  | .name letters, letter :: rest =>
      if letter = '}' then filled environment letters.reverse ++ fill environment .plain rest
      else fill environment (.name (letter :: letters)) rest

/-- The text with every placeholder filled in. -/
def substitute (environment : Environment) (text : List Char) : List Char :=
  fill environment .plain text

/-- The names in a text, in order; the variables on which filling it in depends. -/
def namesFrom : Place → List Char → List String
  | _, [] => []
  | .plain, letter :: rest =>
      if letter = '$' then namesFrom .dollar rest else namesFrom .plain rest
  | .dollar, letter :: rest =>
      if letter = '{' then namesFrom (.name []) rest
      else if letter = '$' then namesFrom .dollar rest
      else namesFrom .plain rest
  | .name letters, letter :: rest =>
      if letter = '}' then
        if letters.isEmpty then namesFrom .plain rest
        else String.ofList letters.reverse :: namesFrom .plain rest
      else namesFrom (.name (letter :: letters)) rest

def names (text : List Char) : List String := namesFrom .plain text

theorem fill_congr {first second : Environment} {place : Place} {text : List Char}
    (same : ∀ name ∈ namesFrom place text, first name = second name) :
    fill first place text = fill second place text := by
  induction text generalizing place with
  | nil => cases place <;> rfl
  | cons letter rest ih =>
      cases place with
      | plain =>
          simp only [fill, namesFrom] at same ⊢
          split at same <;> rename_i isDollar
          · simp only [isDollar, if_true, ih same]
          · simp only [isDollar, if_false, ih same]
      | dollar =>
          simp only [fill, namesFrom] at same ⊢
          split at same <;> rename_i isBrace
          · simp only [isBrace, if_true, ih same]
          · split at same <;> rename_i isDollar
            · subst isDollar
              simp [ih same]
            · simp only [isBrace, isDollar, if_false, ih same]
      | name letters =>
          simp only [fill, namesFrom] at same ⊢
          split at same <;> rename_i isBrace
          · split at same <;> rename_i isEmpty
            · simp only [isBrace, if_true, ih same, filled, List.isEmpty_reverse, isEmpty]
            · have here := same _ List.mem_cons_self
              have later := ih fun name member => same name (List.mem_cons_of_mem _ member)
              simp only [isBrace, if_true, later, filled, List.isEmpty_reverse, isEmpty, here]
          · simp only [isBrace, if_false, ih same]

theorem substitute_congr {first second : Environment} {text : List Char}
    (same : ∀ name ∈ names text, first name = second name) :
    substitute first text = substitute second text := fill_congr same

end Visa.Settings
