namespace Visa.Toml

/-! The tree that a TOML text describes, and the two ways in which a line adds to it. -/

/-- How a table came to be, which decides what may still be added to it: by its own header, as a
step on the way to another header, as a step of a dotted key, or written out in braces. -/
inductive Form where
  | header
  | implied
  | dotted
  | inline
deriving DecidableEq, Repr

/-- `tables` is a list of tables made by headers, the latest first. -/
inductive Node where
  | text (value : String)
  | plain
  | moment
  | unusable
  | list (items : List Node)
  | table (form : Form) (members : List (String × Node))
  | tables (elements : List (List (String × Node)))

structure Table where
  form : Form
  members : List (String × Node)

namespace Node

mutual

/-- Whether every value in a tree can be had. -/
def isUsable : Node → Bool
  | .text _ | .plain | .moment => true
  | .unusable => false
  | .list items => areUsable items
  | .table _ members => membersUsable members
  | .tables elements => elementsUsable elements

def areUsable : List Node → Bool
  | [] => true
  | item :: rest => isUsable item && areUsable rest

def membersUsable : List (String × Node) → Bool
  | [] => true
  | (_, node) :: rest => isUsable node && membersUsable rest

def elementsUsable : List (List (String × Node)) → Bool
  | [] => true
  | members :: rest => membersUsable members && elementsUsable rest

end

end Node

namespace Table

def lookup (table : Table) (key : String) : Option Node :=
  (table.members.find? fun member => member.1 == key).map Prod.snd

/-- Members keep the place at which their key first occurred. -/
def set (table : Table) (key : String) (node : Node) : Table :=
  if table.members.any fun member => member.1 == key then
    { table with members := table.members.map fun member =>
        if member.1 == key then (key, node) else member }
  else { table with members := table.members ++ [(key, node)] }

/-- Changes the table at the end of a path and makes the tables that are missing on the way. A
list of tables is entered at its latest. A dotted key cannot pass through a table that has a
header, and nothing can pass through a table in braces. -/
def within (isDotted : Bool) (change : Table → Option Table) : List String → Table → Option Table
  | [], table => change table
  | key :: path, table =>
      match table.lookup key with
      | none =>
          let form := if isDotted then Form.dotted else Form.implied
          (within isDotted change path ⟨form, []⟩).map fun inner =>
            table.set key (.table inner.form inner.members)
      | some (.table form members) =>
          if form = .inline ∨ (isDotted ∧ form = .header) then none
          else (within isDotted change path ⟨form, members⟩).map fun inner =>
            table.set key (.table inner.form inner.members)
      | some (.tables (latest :: earlier)) =>
          (within isDotted change path ⟨.header, latest⟩).map fun inner =>
            table.set key (.tables (inner.members :: earlier))
      | some _ => none

/-- Adds a member whose key is new. -/
def add (key : String) (node : Node) (table : Table) : Option Table :=
  match table.lookup key with
  | none => some (table.set key node)
  | some _ => none

/-- Adds the value of a key; the tables on the path of a dotted key have to be its own. -/
def put (path : List String) (key : String) (node : Node) (table : Table) : Option Table :=
  let place (inner : Table) : Option Table :=
    if path.isEmpty ∨ inner.form = .dotted then add key node inner else none
  within (!path.isEmpty) place path table

/-- The header of a table: the table is new, or so far only a step on the way to others. -/
def openTable (path : List String) (key : String) (table : Table) : Option Table :=
  let change (inner : Table) : Option Table :=
    match inner.lookup key with
    | none => some (inner.set key (.table .header []))
    | some (.table .implied members) => some (inner.set key (.table .header members))
    | some _ => none
  within false change path table

/-- The header of one more table in a list. -/
def openElement (path : List String) (key : String) (table : Table) : Option Table :=
  let change (inner : Table) : Option Table :=
    match inner.lookup key with
    | none => some (inner.set key (.tables [[]]))
    | some (.tables elements) => some (inner.set key (.tables ([] :: elements)))
    | some _ => none
  within false change path table

end Table

end Visa.Toml
